import UnitreeGo2.SemanticNavigation.Landmarks

/-!
# What a landmark resolves to

A loaded file keeps the identifiers of its landmarks apart, and their normalized terms too.  So
the dictionary of the mentioned landmarks has one entry exactly when one landmark is mentioned,
in whatever order the landmarks are listed.
-/

namespace UnitreeGo2.SemanticNavigation

variable {lib : LandmarkLibrary}

/-! ## The mentioned landmarks -/

/-- Some term of the landmark occurs in the utterance, both normalized. -/
def Mentions (lib : LandmarkLibrary) (utterance : String) (item : Landmark) : Prop :=
  ∃ term ∈ item.terms, occursIn (lib.normalizeText term) (lib.normalizeText utterance) = true

/-- No term of the landmark is empty once it is normalized. -/
def Named (lib : LandmarkLibrary) (item : Landmark) : Prop :=
  ∀ term ∈ item.terms, lib.normalizeText term ≠ ""

lemma item_of_mem_mentions {query : String} {item : Landmark} {entry : TermMatch}
    (h : entry ∈ item.mentions lib query) : entry.item = item := by
  obtain ⟨term, _, rfl⟩ := List.mem_map.mp h
  rfl

lemma mentions_ne_nil_iff {utterance : String} {item : Landmark} (hnamed : Named lib item) :
    item.mentions lib (lib.normalizeText utterance) ≠ [] ↔ Mentions lib utterance item := by
  unfold Landmark.mentions
  rw [Ne, List.map_eq_nil_iff, List.filter_eq_nil_iff]
  constructor
  · intro h
    push Not at h
    obtain ⟨term, hterm, h⟩ := h
    rw [Bool.and_eq_true] at h
    exact ⟨term, hterm, h.2⟩
  · rintro ⟨term, hterm, h⟩ hnone
    refine hnone term hterm ?_
    rw [Bool.and_eq_true, h]
    exact ⟨decide_eq_true (hnamed term hterm), rfl⟩

/-- The mentioned terms of the navigable landmarks. -/
abbrev foundIn (lib : LandmarkLibrary) (landmarks : List Landmark) (utterance : String) :
    List TermMatch :=
  mentionedIn lib landmarks true (lib.normalizeText utterance)

lemma mem_foundIn {landmarks : List Landmark} {utterance : String} {entry : TermMatch}
    (h : entry ∈ foundIn lib landmarks utterance) :
    entry.item ∈ landmarks ∧ entry.item.navigable = true ∧
      entry.item.mentions lib (lib.normalizeText utterance) ≠ [] := by
  obtain ⟨item, hitem, hentry⟩ := List.mem_flatMap.mp h
  split at hentry
  · rename_i hnavigable
    rw [item_of_mem_mentions hentry]
    exact ⟨hitem, hnavigable, List.ne_nil_of_mem hentry⟩
  · cases hentry

lemma exists_mem_foundIn {landmarks : List Landmark} {utterance : String} {item : Landmark}
    (hitem : item ∈ landmarks) (hnavigable : item.navigable = true)
    (hmentions : item.mentions lib (lib.normalizeText utterance) ≠ []) :
    ∃ entry ∈ foundIn lib landmarks utterance, entry.item = item := by
  obtain ⟨entry, hentry⟩ := List.exists_mem_of_ne_nil _ hmentions
  refine ⟨entry, List.mem_flatMap.mpr ⟨item, hitem, ?_⟩, item_of_mem_mentions hentry⟩
  rw [if_pos hnavigable]
  exact hentry

/-! ## The dictionary of the mentioned landmarks -/

section Dictionary

variable {α : Type} {items : List (String × α)} {key : String} {value : α}

lemma map_fst_setItem : (setItem items key value).map Prod.fst =
    if key ∈ items.map Prod.fst then items.map Prod.fst else items.map Prod.fst ++ [key] := by
  unfold setItem
  split
  · rw [List.map_map]
    refine List.map_congr_left fun entry _ => ?_
    show (if entry.1 = key then (key, value) else entry).1 = entry.1
    split
    · rename_i h
      exact h.symm
    · rfl
  · rw [List.map_append]
    rfl

lemma mem_setItem {entry : String × α} (h : entry ∈ setItem items key value) :
    entry ∈ items ∨ entry = (key, value) := by
  unfold setItem at h
  split at h
  · obtain ⟨old, hold, rfl⟩ := List.mem_map.mp h
    split
    · exact Or.inr rfl
    · exact Or.inl hold
  · rcases List.mem_append.mp h with h | h
    · exact Or.inl h
    · exact Or.inr (List.mem_singleton.mp h)

lemma nodup_setItem (h : (items.map Prod.fst).Nodup) :
    ((setItem items key value).map Prod.fst).Nodup := by
  rw [map_fst_setItem]
  split
  · exact h
  · rename_i hkey
    rw [← List.concat_eq_append]
    exact h.concat hkey

end Dictionary

/-- The keys are the identifiers, and each value has been found. -/
structure Indexes (items : List (String × Landmark)) (found : List TermMatch) : Prop where
  nodup : (items.map Prod.fst).Nodup
  keys : ∀ key, key ∈ items.map Prod.fst ↔ ∃ entry ∈ found, entry.item.id = key
  values : ∀ item ∈ items, ∃ entry ∈ found, item = (entry.item.id, entry.item)

lemma Indexes.setItem {items : List (String × Landmark)} {found : List TermMatch}
    (h : Indexes items found) (entry : TermMatch) :
    Indexes (setItem items entry.item.id entry.item) (found ++ [entry]) where
  nodup := nodup_setItem h.nodup
  keys := by
    intro key
    have hsplit : (∃ e ∈ found ++ [entry], e.item.id = key) ↔
        (∃ e ∈ found, e.item.id = key) ∨ entry.item.id = key := by simp
    rw [hsplit, ← h.keys key, map_fst_setItem]
    split
    · rename_i hmem
      constructor
      · exact Or.inl
      · rintro (hkey | rfl)
        · exact hkey
        · exact hmem
    · rw [List.mem_append, List.mem_singleton]
      exact or_congr_right eq_comm
  values := by
    intro item hitem
    rcases mem_setItem hitem with hitem | rfl
    · obtain ⟨e, he, hitem⟩ := h.values item hitem
      exact ⟨e, List.mem_append_left _ he, hitem⟩
    · exact ⟨entry, by simp, rfl⟩

lemma indexes_matchedItems (found : List TermMatch) : Indexes (matchedItems found) found := by
  induction found using List.reverseRecOn with
  | nil => exact ⟨List.nodup_nil, by simp [matchedItems], by simp [matchedItems]⟩
  | append_singleton found entry ih =>
    unfold matchedItems
    rw [List.foldl_append]
    exact ih.setItem entry

/-- One landmark is found, exactly if the dictionary has one entry. -/
lemma Indexes.eq_singleton_iff {items : List (String × Landmark)} {found : List TermMatch}
    (h : Indexes items found)
    (hids : ∀ a ∈ found, ∀ b ∈ found, a.item.id = b.item.id → a.item = b.item)
    {item : Landmark} :
    items = [(item.id, item)] ↔ (∃ entry ∈ found, entry.item = item) ∧
      ∀ entry ∈ found, entry.item = item := by
  constructor
  · rintro rfl
    obtain ⟨e, he, hitem⟩ := h.values (item.id, item) (by simp)
    obtain rfl : item = e.item := congrArg Prod.snd hitem
    refine ⟨⟨e, he, rfl⟩, fun entry hentry => hids entry hentry e he ?_⟩
    have hkey := (h.keys entry.item.id).mpr ⟨entry, hentry, rfl⟩
    simpa using hkey
  · rintro ⟨⟨e, he, rfl⟩, hall⟩
    have hkeys : ∀ key ∈ items.map Prod.fst, key = e.item.id := by
      intro key hkey
      obtain ⟨entry, hentry, rfl⟩ := (h.keys key).mp hkey
      rw [hall entry hentry]
    have hmem : e.item.id ∈ items.map Prod.fst := (h.keys _).mpr ⟨e, he, rfl⟩
    have hvalue : ∀ x ∈ items, x = (e.item.id, e.item) := by
      intro x hx
      obtain ⟨entry, hentry, rfl⟩ := h.values x hx
      rw [hall entry hentry]
    match items, h.nodup, hmem, hkeys, hvalue with
    | [], _, hmem, _, _ => cases hmem
    | [x], _, _, _, hvalue => rw [hvalue x (by simp)]
    | x :: y :: rest, hnodup, _, hkeys, _ =>
      have hne : x.1 ≠ y.1 := by
        intro heq
        rw [List.map_cons, List.map_cons, heq] at hnodup
        exact (List.nodup_cons.mp hnodup).1 (by simp)
      exact absurd ((hkeys x.1 (by simp)).trans (hkeys y.1 (by simp)).symm) hne

/-! ## Resolving -/

/-- What a loaded store guarantees of its landmarks. -/
structure Sound (lib : LandmarkLibrary) (store : LandmarkStore) : Prop where
  ids : (store.landmarks.map Landmark.id).Nodup
  named : ∀ item ∈ store.landmarks, Named lib item
  mapId : ∀ item ∈ store.landmarks, item.mapId = store.mapId
  mapGeneration : ∀ item ∈ store.landmarks, item.mapGeneration = store.mapGeneration

namespace Sound

variable {store : LandmarkStore}

lemma eq_of_id (h : Sound lib store) {a b : Landmark} (ha : a ∈ store.landmarks)
    (hb : b ∈ store.landmarks) (hid : a.id = b.id) : a = b :=
  List.inj_on_of_nodup_map h.ids ha hb hid

lemma matchedItems_eq_singleton_iff (h : Sound lib store) {utterance : String} {item : Landmark} :
    matchedItems (foundIn lib store.landmarks utterance) = [(item.id, item)] ↔
      (item ∈ store.landmarks ∧ item.navigable = true ∧ Mentions lib utterance item) ∧
      ∀ other ∈ store.landmarks, other.navigable = true → Mentions lib utterance other →
        other = item := by
  rw [(indexes_matchedItems _).eq_singleton_iff fun a ha b hb => h.eq_of_id (mem_foundIn ha).1
    (mem_foundIn hb).1]
  constructor
  · rintro ⟨⟨entry, hentry, rfl⟩, hall⟩
    obtain ⟨hmem, hnavigable, hmentions⟩ := mem_foundIn hentry
    refine ⟨⟨hmem, hnavigable, (mentions_ne_nil_iff (h.named _ hmem)).mp hmentions⟩, ?_⟩
    intro other hother hnavigable' hmentions'
    obtain ⟨entry', hentry', rfl⟩ := exists_mem_foundIn hother hnavigable'
      ((mentions_ne_nil_iff (h.named _ hother)).mpr hmentions')
    exact hall entry' hentry'
  · rintro ⟨⟨hmem, hnavigable, hmentions⟩, hall⟩
    refine ⟨exists_mem_foundIn hmem hnavigable
      ((mentions_ne_nil_iff (h.named _ hmem)).mpr hmentions), fun entry hentry => ?_⟩
    obtain ⟨hmem', hnavigable', hmentions'⟩ := mem_foundIn hentry
    exact hall _ hmem' hnavigable' ((mentions_ne_nil_iff (h.named _ hmem')).mp hmentions')

/-- A text without a normalized form mentions nothing. -/
lemma not_mentions_of_eq_empty (h : Sound lib store) {utterance : String} {item : Landmark}
    (hitem : item ∈ store.landmarks) (hempty : lib.normalizeText utterance = "") :
    ¬ Mentions lib utterance item := by
  rintro ⟨term, hterm, hoccurs⟩
  rw [hempty] at hoccurs
  have hnil : (lib.normalizeText term).toList = [] :=
    List.infix_nil.mp (of_decide_eq_true hoccurs)
  exact h.named item hitem term hterm (String.toList_eq_nil_iff.mp hnil)

/-- The result of a request. -/
theorem resolve_eq_ok_iff (h : Sound lib store) {request : LandmarkQuery} {item : Landmark} :
    store.resolve lib request = .ok item ↔
      ((item ∈ store.landmarks ∧ item.navigable = true ∧ Mentions lib request.utterance item) ∧
        ∀ other ∈ store.landmarks, other.navigable = true →
          Mentions lib request.utterance other → other = item) ∧
      store.mapId = request.expectedMapId ∧ store.mapGeneration = request.expectedGeneration ∧
      (request.requireVerified = true → item.verified = true) := by
  rw [← h.matchedItems_eq_singleton_iff]
  unfold LandmarkStore.resolve
  dsimp only
  split
  · rename_i hempty
    refine ⟨(fun h => by cases h), fun hitem => ?_⟩
    obtain ⟨⟨hmem, _, hmentions⟩, _⟩ := h.matchedItems_eq_singleton_iff.mp hitem.1
    exact absurd hmentions (h.not_mentions_of_eq_empty hmem hempty)
  split
  · rename_i hmap
    exact ⟨(fun h => by cases h), fun hitem => absurd hitem.2.1 hmap⟩
  rename_i hmap
  split
  · rename_i hgeneration
    exact ⟨(fun h => by cases h), fun hitem => absurd hitem.2.2.1 hgeneration⟩
  rename_i hgeneration
  rw [not_not] at hmap hgeneration
  split
  · rename_i hnone
    rw [show foundIn lib store.landmarks request.utterance = [] from hnone]
    constructor
    · intro h
      unfold unmatched at h
      split at h <;> cases h
    · rintro ⟨h, _⟩
      cases h
  show selectOnly lib request (matchedItems (foundIn lib store.landmarks request.utterance)) = _ ↔ _
  have hindex := indexes_matchedItems (foundIn lib store.landmarks request.utterance)
  revert hindex
  generalize matchedItems (foundIn lib store.landmarks request.utterance) = matched
  intro hindex
  unfold selectOnly
  split
  · rename_i id found
    obtain rfl : id = found.id := by
      obtain ⟨entry, _, heq⟩ := hindex.values (id, found) (by simp)
      rw [Prod.mk.injEq] at heq
      rw [heq.1, heq.2]
    split
    · rename_i hverified
      rw [Bool.and_eq_true, Bool.not_eq_true'] at hverified
      refine ⟨(fun h => by cases h), fun hitem => ?_⟩
      obtain rfl : found = item := congrArg Prod.snd (List.singleton_inj.mp hitem.1)
      have hitem := hitem.2.2.2 hverified.1
      rw [hverified.2] at hitem
      cases hitem
    · rename_i hverified
      constructor
      · intro hitem
        cases hitem
        refine ⟨rfl, hmap, hgeneration, fun hrequire => ?_⟩
        by_contra hnot
        exact hverified (by rw [hrequire, Bool.eq_false_iff.mpr hnot]; rfl)
      · rintro ⟨hitem, _⟩
        obtain rfl : found = item := congrArg Prod.snd (List.singleton_inj.mp hitem)
        rfl
  · rename_i hmany
    exact ⟨(fun h => by cases h), fun hitem => absurd hitem.1 (hmany _ _)⟩

end Sound

/-! ## The order of the landmarks -/

lemma printedSorted_congr {texts texts' : List String} (h : ∀ text, text ∈ texts ↔ text ∈ texts') :
    printedSorted lib texts = printedSorted lib texts' := by
  have hset : texts.toFinset = texts'.toFinset := by
    ext text
    rw [List.mem_toFinset, List.mem_toFinset, h]
  unfold printedSorted
  rw [hset]

/-- Two dictionaries of the same landmarks. -/
lemma Indexes.perm {items items' : List (String × Landmark)} {found found' : List TermMatch}
    (h : Indexes items found) (h' : Indexes items' found') (hperm : found'.Perm found)
    (hids : ∀ a ∈ found, ∀ b ∈ found, a.item.id = b.item.id → a.item = b.item) :
    items'.Perm items := by
  refine (List.perm_ext_iff_of_nodup (List.Nodup.of_map _ h'.nodup)
    (List.Nodup.of_map _ h.nodup)).mpr fun x => ?_
  have hside : ∀ {items items' : List (String × Landmark)} {found found' : List TermMatch},
      Indexes items found → Indexes items' found' → found'.Perm found →
      (∀ a ∈ found, ∀ b ∈ found, a.item.id = b.item.id → a.item = b.item) →
      x ∈ items' → x ∈ items := by
    intro items items' found found' h h' hperm hids hx
    obtain ⟨entry, hentry, rfl⟩ := h'.values x hx
    have hmem := hperm.mem_iff.mp hentry
    obtain ⟨y, hy, hkey⟩ := List.mem_map.mp ((h.keys _).mpr ⟨entry, hmem, rfl⟩)
    obtain ⟨entry', hentry', rfl⟩ := h.values y hy
    rw [← hkey, ← hids _ hentry' _ hmem hkey]
    exact hy
  refine ⟨hside h h' hperm hids, hside h' h hperm.symm ?_⟩
  intro a ha b hb
  exact hids a (hperm.mem_iff.mp ha) b (hperm.mem_iff.mp hb)

lemma selectOnly_perm {request : LandmarkQuery} {matched matched' : List (String × Landmark)}
    (h : matched'.Perm matched) :
    selectOnly lib request matched' = selectOnly lib request matched := by
  by_cases hone : ∃ entry, matched = [entry]
  · obtain ⟨entry, rfl⟩ := hone
    rw [List.perm_singleton.mp h]
  · have hone' : ¬ ∃ entry, matched' = [entry] := by
      rintro ⟨entry, rfl⟩
      exact hone ⟨entry, List.perm_singleton.mp h.symm⟩
    have hmany : ∀ {matched : List (String × Landmark)}, (¬ ∃ entry, matched = [entry]) →
        selectOnly lib request matched = refuse ("ambiguous semantic landmark in " ++
          lib.repr request.utterance ++ ": " ++ printedSorted lib (matched.map Prod.fst)) := by
      intro matched hone
      unfold selectOnly
      split
      · exact absurd ⟨_, rfl⟩ hone
      · rfl
    rw [hmany hone, hmany hone', printedSorted_congr fun text => (h.map Prod.fst).mem_iff]

lemma unmatched_perm {request : LandmarkQuery} {found found' : List TermMatch}
    (h : found'.Perm found) : unmatched lib request found' = unmatched lib request found := by
  unfold unmatched
  rw [printedSorted_congr fun text => (h.map fun entry => entry.item.name).mem_iff]
  refine if_congr (not_congr ⟨?_, ?_⟩) rfl rfl
  · rintro rfl
    exact h.nil_eq.symm
  · rintro rfl
    exact h.symm.nil_eq.symm

/-- The order of the landmarks does not change what a request gives. -/
theorem Sound.resolve_perm {store : LandmarkStore} (h : Sound lib store)
    {landmarks : List Landmark} (hperm : landmarks.Perm store.landmarks)
    (request : LandmarkQuery) :
    LandmarkStore.resolve lib { store with landmarks } request = store.resolve lib request := by
  have hmentioned : ∀ navigable query, (mentionedIn lib landmarks navigable query).Perm
      (mentionedIn lib store.landmarks navigable query) := fun _ _ => hperm.flatMap_right _
  have hfound := hmentioned true (lib.normalizeText request.utterance)
  have hmatched := (indexes_matchedItems _).perm (indexes_matchedItems _) hfound
    fun a ha b hb => h.eq_of_id (mem_foundIn ha).1 (mem_foundIn hb).1
  unfold LandmarkStore.resolve
  dsimp only
  rw [selectOnly_perm hmatched, unmatched_perm (hmentioned false _)]
  refine if_congr Iff.rfl rfl (if_congr Iff.rfl rfl (if_congr Iff.rfl rfl
    (if_congr ⟨?_, ?_⟩ rfl rfl)))
  · intro hnil
    rw [hnil] at hfound
    exact hfound.nil_eq.symm
  · intro hnil
    rw [hnil] at hfound
    exact hfound.symm.nil_eq.symm

/-! ## Loading -/

/-- The landmark of an entry, whose index only stands in the texts of errors. -/
def entryOf (lib : LandmarkLibrary) (binding : MapBinding) (row : PyValue) : Option Landmark :=
  (parseRow lib binding 0 row).toOption

lemma toOption_eq_some_iff {α : Type} {x : Checked α} {value : α} :
    x.toOption = some value ↔ x = .ok value := by
  cases x with
  | error e => exact ⟨(fun h => by cases h), (fun h => by cases h)⟩
  | ok a => exact ⟨(fun h => by cases h; rfl), (fun h => by cases h; rfl)⟩

lemma parseRow_eq_ok_iff {binding : MapBinding} {index : ℕ} {row : PyValue} {item : Landmark} :
    parseRow lib binding index row = .ok item ↔ entryOf lib binding row = some item := by
  unfold entryOf
  rw [toOption_eq_some_iff]
  unfold parseRow
  split
  · rename_i row
    dsimp only
    cases parseRegion lib (PyValue.get row "region")
        (lib.strip (lib.text (getOr row "id" (.str "")))) with
    | error e => rfl
    | ok region =>
      simp only [bind, Except.bind]
      split
      · exact ⟨(fun h => by cases h), (fun h => by cases h)⟩
      · rfl
  · exact ⟨(fun h => by cases h), (fun h => by cases h)⟩

/-- A loaded landmark belongs to the map of its file. -/
lemma parseEntry_map {binding : MapBinding} {row : List (String × PyValue)}
    {landmarkId name : String} {region : Option (List (ℚ × ℚ))} {item : Landmark}
    (h : parseEntry lib binding row landmarkId name region = .ok item) :
    item.mapId = binding.mapId ∧ item.mapGeneration = binding.mapGeneration := by
  unfold parseEntry at h
  dsimp only at h
  split at h
  · cases h
  split at h
  · split at h
    · split at h
      · obtain ⟨pose, _, h⟩ := Except.bind_eq_ok_iff.mp h
        split at h
        · cases h
        split at h
        · cases h
        obtain ⟨radius, _, h⟩ := Except.bind_eq_ok_iff.mp h
        cases h
        exact ⟨rfl, rfl⟩
      · cases h
    · cases h
  · cases h

lemma entryOf_map {binding : MapBinding} {row : PyValue} {item : Landmark}
    (h : entryOf lib binding row = some item) :
    item.mapId = binding.mapId ∧ item.mapGeneration = binding.mapGeneration := by
  have h := toOption_eq_some_iff.mp h
  unfold parseRow at h
  split at h
  · obtain ⟨region, _, h⟩ := Except.bind_eq_ok_iff.mp h
    split at h
    · cases h
    · exact parseEntry_map h
  · cases h

/-- The terms are not claimed by another landmark. -/
def Unclaimed (lib : LandmarkLibrary) (seen : SeenTerms) (landmarkId : String)
    (terms : List String) : Prop :=
  ∀ term ∈ terms, ∀ owner, seen.lookup (lib.normalizeText term) = some owner → owner = landmarkId

/-- The claims on the terms of a landmark. -/
def claimsOf (lib : LandmarkLibrary) (landmarkId : String) (terms : List String) : SeenTerms :=
  (terms.map fun term => (lib.normalizeText term, landmarkId)).reverse

lemma claimTerms_eq_ok_iff {landmarkId : String} {terms : List String} {seen seen' : SeenTerms} :
    claimTerms lib landmarkId terms seen = .ok seen' ↔
      (∀ term ∈ terms, lib.normalizeText term ≠ "") ∧ Unclaimed lib seen landmarkId terms ∧
        seen' = claimsOf lib landmarkId terms ++ seen := by
  induction terms generalizing seen with
  | nil =>
    unfold claimTerms
    constructor
    · intro h
      cases h
      exact ⟨by simp, by simp [Unclaimed], rfl⟩
    · rintro ⟨_, _, rfl⟩
      rfl
  | cons term terms ih =>
    have hmore : ∀ owner, seen.lookup (lib.normalizeText term) = owner →
        (∀ o, owner = some o → o = landmarkId) →
        (Unclaimed lib ((lib.normalizeText term, landmarkId) :: seen) landmarkId terms ↔
          Unclaimed lib seen landmarkId (term :: terms)) := by
      rintro owner rfl howner
      constructor
      · intro h other hother o ho
        rcases List.mem_cons.mp hother with rfl | hother
        · exact howner o ho
        · by_cases hsame : lib.normalizeText other = lib.normalizeText term
          · rw [hsame] at ho
            exact howner o ho
          · refine h other hother o ?_
            rwa [List.lookup_cons, beq_eq_false_iff_ne.mpr hsame]
      · intro h other hother o ho
        rw [List.lookup_cons] at ho
        split at ho
        · exact (Option.some_inj.mp ho).symm
        · exact h other (List.mem_cons_of_mem _ hother) o ho
    unfold claimTerms
    split
    · rename_i hempty
      exact ⟨(fun h => by cases h), fun h => absurd hempty (h.1 term (by simp))⟩
    rename_i hterm
    have hclaims : claimsOf lib landmarkId (term :: terms) ++ seen =
        claimsOf lib landmarkId terms ++ (lib.normalizeText term, landmarkId) :: seen := by
      unfold claimsOf
      rw [List.map_cons, List.reverse_cons, List.append_assoc]
      rfl
    have hnames : (∀ t ∈ term :: terms, lib.normalizeText t ≠ "") ↔
        ∀ t ∈ terms, lib.normalizeText t ≠ "" := by
      rw [List.forall_mem_cons]
      exact and_iff_right hterm
    split
    · rename_i hlookup
      rw [ih, hclaims, hnames, hmore none hlookup (by simp)]
    · rename_i owner hlookup
      split
      · rename_i hother
        refine ⟨(fun h => by cases h), fun h => ?_⟩
        exact absurd (h.2.1 term (by simp) owner hlookup) hother
      · rename_i hsame
        rw [ih, hclaims, hnames, hmore (some owner) hlookup]
        intro o ho
        rw [← Option.some_inj.mp ho]
        exact not_not.mp hsame

/-- Two landmarks that share a normalized term are one. -/
def Compatible (lib : LandmarkLibrary) (a b : Landmark) : Prop :=
  ∀ s ∈ a.terms, ∀ t ∈ b.terms, lib.normalizeText s = lib.normalizeText t → a.id = b.id

lemma Compatible.symm {a b : Landmark} (h : Compatible lib a b) : Compatible lib b a :=
  fun s hs t ht heq => (h t ht s hs heq.symm).symm

lemma lookup_claimsOf_of_mem {landmarkId term : String} {terms : List String}
    (hterm : term ∈ terms) :
    (claimsOf lib landmarkId terms).lookup (lib.normalizeText term) = some landmarkId := by
  cases hlookup : (claimsOf lib landmarkId terms).lookup (lib.normalizeText term) with
  | none =>
    have hmem : (lib.normalizeText term, landmarkId) ∈ claimsOf lib landmarkId terms :=
      List.mem_reverse.mpr (List.mem_map.mpr ⟨term, hterm, rfl⟩)
    have hne := List.lookup_eq_none_iff.mp hlookup _ hmem
    rw [bne_self_eq_false] at hne
    cases hne
  | some owner =>
    obtain ⟨l₁, l₂, hl, _⟩ := List.lookup_eq_some_iff.mp hlookup
    have hmem : (lib.normalizeText term, owner) ∈ claimsOf lib landmarkId terms := by
      rw [hl]
      simp
    obtain ⟨_, _, heq⟩ := List.mem_map.mp (List.mem_reverse.mp hmem)
    rw [show landmarkId = owner from congrArg Prod.snd heq]

lemma lookup_claimsOf_of_ne {landmarkId key : String} {terms : List String}
    (hkey : ∀ term ∈ terms, lib.normalizeText term ≠ key) :
    (claimsOf lib landmarkId terms).lookup key = none := by
  refine List.lookup_eq_none_iff.mpr fun entry hentry => ?_
  obtain ⟨term, hterm, rfl⟩ := List.mem_map.mp (List.mem_reverse.mp hentry)
  exact bne_iff_ne.mpr (hkey term hterm).symm

/-- Claims that are added for one landmark keep another out of the shared terms. -/
lemma unclaimed_append_iff {a b : Landmark} {seen : SeenTerms}
    (ha : Unclaimed lib seen a.id a.terms) :
    Unclaimed lib (claimsOf lib a.id a.terms ++ seen) b.id b.terms ↔
      Compatible lib a b ∧ Unclaimed lib seen b.id b.terms := by
  constructor
  · intro h
    have hcompatible : Compatible lib a b := by
      intro s hs t ht heq
      refine h t ht a.id ?_
      rw [List.lookup_append, ← heq, lookup_claimsOf_of_mem hs]
      rfl
    refine ⟨hcompatible, fun t ht owner howner => ?_⟩
    by_cases hshared : ∃ s ∈ a.terms, lib.normalizeText s = lib.normalizeText t
    · obtain ⟨s, hs, heq⟩ := hshared
      rw [← heq] at howner
      exact (ha s hs owner howner).trans (hcompatible s hs t ht heq)
    · push Not at hshared
      refine h t ht owner ?_
      rw [List.lookup_append, lookup_claimsOf_of_ne hshared]
      exact howner
  · rintro ⟨hcompatible, h⟩ t ht owner howner
    rw [List.lookup_append] at howner
    by_cases hshared : ∃ s ∈ a.terms, lib.normalizeText s = lib.normalizeText t
    · obtain ⟨s, hs, heq⟩ := hshared
      rw [← heq, lookup_claimsOf_of_mem hs] at howner
      rw [← Option.some_inj.mp howner]
      exact hcompatible s hs t ht heq
    · push Not at hshared
      rw [lookup_claimsOf_of_ne hshared] at howner
      exact h t ht owner howner

/-- The entries are read one by one, and no two of them share a term. -/
lemma parseRows_eq_ok_iff {binding : MapBinding} {index : ℕ} {rows : List PyValue}
    {seen : SeenTerms} {items : List Landmark} :
    parseRows lib binding index rows seen = .ok items ↔
      rows.map (entryOf lib binding) = items.map some ∧ (∀ item ∈ items, Named lib item) ∧
        (∀ item ∈ items, Unclaimed lib seen item.id item.terms) ∧
        items.Pairwise (Compatible lib) := by
  induction rows generalizing index seen items with
  | nil =>
    unfold parseRows
    constructor
    · intro h
      cases h
      exact ⟨rfl, by simp, by simp, List.Pairwise.nil⟩
    · rintro ⟨h, _⟩
      rw [List.map_eq_nil_iff.mp h.symm]
  | cons row rows ih =>
    unfold parseRows
    rw [Except.bind_eq_ok_iff]
    constructor
    · rintro ⟨item, hitem, h⟩
      obtain ⟨seen', hseen, h⟩ := Except.bind_eq_ok_iff.mp h
      obtain ⟨rest, hrest, h⟩ := Except.bind_eq_ok_iff.mp h
      cases h
      obtain ⟨hnamed, hunclaimed, rfl⟩ := claimTerms_eq_ok_iff.mp hseen
      obtain ⟨hmap, hnames, hclaims, hpairs⟩ := ih.mp hrest
      refine ⟨?_, List.forall_mem_cons.mpr ⟨hnamed, hnames⟩, List.forall_mem_cons.mpr
        ⟨hunclaimed, fun b hb => ((unclaimed_append_iff hunclaimed).mp (hclaims b hb)).2⟩,
        List.pairwise_cons.mpr ⟨fun b hb =>
          ((unclaimed_append_iff hunclaimed).mp (hclaims b hb)).1, hpairs⟩⟩
      rw [List.map_cons, List.map_cons, hmap, parseRow_eq_ok_iff.mp hitem]
    · rintro ⟨hmap, hnames, hclaims, hpairs⟩
      cases items with
      | nil => cases hmap
      | cons item items =>
        rw [List.map_cons, List.map_cons, List.cons.injEq] at hmap
        obtain ⟨hnamed, hnames⟩ := List.forall_mem_cons.mp hnames
        obtain ⟨hunclaimed, hclaims⟩ := List.forall_mem_cons.mp hclaims
        obtain ⟨hpair, hpairs⟩ := List.pairwise_cons.mp hpairs
        refine ⟨item, parseRow_eq_ok_iff.mpr hmap.1, Except.bind_eq_ok_iff.mpr ⟨_,
          claimTerms_eq_ok_iff.mpr ⟨hnamed, hunclaimed, rfl⟩, Except.bind_eq_ok_iff.mpr ⟨items,
            ih.mpr ⟨hmap.2, hnames, fun b hb => ?_, hpairs⟩, rfl⟩⟩⟩
        exact (unclaimed_append_iff hunclaimed).mpr ⟨hpair b hb, hclaims b hb⟩

/-- Entries in another order give the same landmarks, in that order. -/
lemma parseRows_perm {binding : MapBinding} {rows rows' : List PyValue} {items : List Landmark}
    (hrows : rows'.Perm rows) (h : parseRows lib binding 0 rows [] = .ok items) :
    ∃ items', parseRows lib binding 0 rows' [] = .ok items' ∧ items'.Perm items := by
  obtain ⟨hmap, hnames, hclaims, hpairs⟩ := parseRows_eq_ok_iff.mp h
  have hitems : ∀ {rows : List PyValue} {items : List Landmark},
      rows.map (entryOf lib binding) = items.map some →
        rows.filterMap (entryOf lib binding) = items := by
    intro rows items hmap
    have hid := congrArg (List.filterMap id) hmap
    rw [List.filterMap_map, List.filterMap_map] at hid
    simpa using hid
  have hperm : (rows'.filterMap (entryOf lib binding)).Perm items := by
    rw [← hitems hmap]
    exact hrows.filterMap _
  have hmap' : rows'.map (entryOf lib binding) =
      (rows'.filterMap (entryOf lib binding)).map some := by
    have hsome : ∀ row ∈ rows', ∃ item, entryOf lib binding row = some item := by
      intro row hrow
      have hmem : entryOf lib binding row ∈ items.map some := by
        rw [← hmap]
        exact List.mem_map_of_mem (hrows.mem_iff.mp hrow)
      obtain ⟨item, _, heq⟩ := List.mem_map.mp hmem
      exact ⟨item, heq.symm⟩
    clear hrows hperm
    induction rows' with
    | nil => rfl
    | cons row rows' ih =>
      obtain ⟨item, hitem⟩ := hsome row (by simp)
      rw [List.map_cons, List.filterMap_cons_some hitem, List.map_cons, hitem,
        ih fun row hrow => hsome row (List.mem_cons_of_mem _ hrow)]
  refine ⟨_, parseRows_eq_ok_iff.mpr ⟨hmap', fun item hitem => hnames item (hperm.mem_iff.mp hitem),
    fun item hitem => hclaims item (hperm.mem_iff.mp hitem), ?_⟩, hperm⟩
  exact (hperm.pairwise_iff fun h => h.symm).mpr hpairs

lemma init_eq_ok_iff {binding : MapBinding} {landmarks : List Landmark} {store : LandmarkStore} :
    LandmarkStore.init lib binding landmarks = .ok store ↔
      (lib.strip binding.mapId ≠ "" ∧ binding.frameId = "map" ∧ landmarks ≠ [] ∧
        (landmarks.map Landmark.id).Nodup) ∧
      store = ⟨binding.mapId, binding.mapGeneration, binding.frameId, landmarks⟩ := by
  unfold LandmarkStore.init
  split
  · rename_i h
    exact ⟨(fun h => by cases h), fun h' => absurd h h'.1.1⟩
  rename_i hmap
  split
  · rename_i h
    exact ⟨(fun h => by cases h), fun h' => absurd h'.1.2.1 h⟩
  rename_i hframe
  split
  · rename_i h
    exact ⟨(fun h => by cases h), fun h' => absurd h h'.1.2.2.1⟩
  rename_i hnil
  split
  · rename_i h
    exact ⟨(fun h => by cases h), fun h' => absurd h'.1.2.2.2 h⟩
  rename_i hids
  constructor
  · intro h
    cases h
    exact ⟨⟨hmap, not_not.mp hframe, hnil, not_not.mp hids⟩, rfl⟩
  · rintro ⟨_, rfl⟩
    rfl

/-- How a file is loaded. -/
lemma fromMapping_eq_ok_iff {raw : PyValue} {store : LandmarkStore} :
    LandmarkStore.fromMapping lib raw = .ok store ↔ ∃ items rows binding landmarks,
      raw = .dict items ∧ PyValue.get items "landmarks" = .list rows ∧
      parseBinding lib items = .ok binding ∧ parseRows lib binding 0 rows [] = .ok landmarks ∧
      LandmarkStore.init lib binding landmarks = .ok store := by
  constructor
  · intro h
    unfold LandmarkStore.fromMapping at h
    split at h
    · rename_i items
      obtain ⟨binding, hbinding, h⟩ := Except.bind_eq_ok_iff.mp h
      split at h
      · rename_i rows hrows
        obtain ⟨landmarks, hlandmarks, h⟩ := Except.bind_eq_ok_iff.mp h
        exact ⟨items, rows, binding, landmarks, rfl, hrows, hbinding, hlandmarks, h⟩
      · cases h
    · cases h
  · rintro ⟨items, rows, binding, landmarks, rfl, hrows, hbinding, hlandmarks, h⟩
    refine Except.bind_eq_ok_iff.mpr ⟨binding, hbinding, ?_⟩
    rw [hrows]
    exact Except.bind_eq_ok_iff.mpr ⟨landmarks, hlandmarks, h⟩

/-- A loaded store is sound. -/
theorem sound_of_fromMapping {raw : PyValue} {store : LandmarkStore}
    (h : LandmarkStore.fromMapping lib raw = .ok store) : Sound lib store := by
  obtain ⟨items, rows, binding, landmarks, _, _, _, hlandmarks, hinit⟩ :=
    fromMapping_eq_ok_iff.mp h
  obtain ⟨⟨_, _, _, hids⟩, rfl⟩ := init_eq_ok_iff.mp hinit
  obtain ⟨hmap, hnames, _, _⟩ := parseRows_eq_ok_iff.mp hlandmarks
  have hentry : ∀ item ∈ landmarks, item.mapId = binding.mapId ∧
      item.mapGeneration = binding.mapGeneration := by
    intro item hitem
    have hmem : some item ∈ rows.map (entryOf lib binding) := by
      rw [hmap]
      exact List.mem_map_of_mem hitem
    obtain ⟨row, _, hrow⟩ := List.mem_map.mp hmem
    exact entryOf_map hrow
  exact ⟨hids, hnames, fun item hitem => (hentry item hitem).1,
    fun item hitem => (hentry item hitem).2⟩

/-- Two files that differ in the order of the landmarks only. -/
def Reordered (raw raw' : PyValue) : Prop :=
  ∃ items items' rows rows', raw = .dict items ∧ raw' = .dict items' ∧
    (∀ key, key ≠ "landmarks" → items'.lookup key = items.lookup key) ∧
    PyValue.get items "landmarks" = .list rows ∧ PyValue.get items' "landmarks" = .list rows' ∧
    rows'.Perm rows

lemma parseBinding_congr {items items' : List (String × PyValue)}
    (h : ∀ key, key ≠ "landmarks" → items'.lookup key = items.lookup key) :
    parseBinding lib items' = parseBinding lib items := by
  unfold parseBinding getOr PyValue.get
  rw [h "schema_version" (by decide), h "map_generation" (by decide), h "map_id" (by decide),
    h "frame_id" (by decide)]

/-- A reordered file loads, and its landmarks are those of the file. -/
lemma fromMapping_reordered {raw raw' : PyValue} {store : LandmarkStore}
    (h : LandmarkStore.fromMapping lib raw = .ok store) (hraw : Reordered raw raw') :
    ∃ landmarks, LandmarkStore.fromMapping lib raw' = .ok { store with landmarks } ∧
      landmarks.Perm store.landmarks := by
  obtain ⟨_, items', _, rows', rfl, rfl, hkeys, hrows, hrows', hperm⟩ := hraw
  obtain ⟨items, rows, binding, landmarks, hitems, hget, hbinding, hlandmarks, hinit⟩ :=
    fromMapping_eq_ok_iff.mp h
  cases hitems
  rw [hget] at hrows
  cases hrows
  obtain ⟨⟨hmap, hframe, hnil, hids⟩, rfl⟩ := init_eq_ok_iff.mp hinit
  obtain ⟨landmarks', hlandmarks', hperm'⟩ := parseRows_perm hperm hlandmarks
  refine ⟨landmarks', fromMapping_eq_ok_iff.mpr ⟨items', rows', binding, landmarks', rfl, hrows',
    (parseBinding_congr hkeys).trans hbinding, hlandmarks', init_eq_ok_iff.mpr
      ⟨⟨hmap, hframe, ?_, (hperm'.map Landmark.id).nodup_iff.mpr hids⟩, rfl⟩⟩, hperm'⟩
  rintro rfl
  exact hnil hperm'.nil_eq.symm

/-! ## Exactness -/

/-- Exactly one navigable landmark is mentioned, and its checks pass. -/
structure Resolves (lib : LandmarkLibrary) (store : LandmarkStore) (request : LandmarkQuery)
    (item : Landmark) : Prop where
  mem : item ∈ store.landmarks
  navigable : item.navigable = true
  mentioned : Mentions lib request.utterance item
  unique : ∀ other ∈ store.landmarks, other.navigable = true →
    Mentions lib request.utterance other → other = item
  mapId : item.mapId = request.expectedMapId
  mapGeneration : item.mapGeneration = request.expectedGeneration
  verified : request.requireVerified = true → item.verified = true

lemma Sound.resolves_iff {store : LandmarkStore} (h : Sound lib store) {request : LandmarkQuery}
    {item : Landmark} :
    store.resolve lib request = .ok item ↔ Resolves lib store request item := by
  rw [h.resolve_eq_ok_iff]
  constructor
  · rintro ⟨⟨⟨hmem, hnavigable, hmentioned⟩, hunique⟩, hmap, hgeneration, hverified⟩
    exact ⟨hmem, hnavigable, hmentioned, hunique, (h.mapId item hmem).trans hmap,
      (h.mapGeneration item hmem).trans hgeneration, hverified⟩
  · rintro ⟨hmem, hnavigable, hmentioned, hunique, hmap, hgeneration, hverified⟩
    exact ⟨⟨⟨hmem, hnavigable, hmentioned⟩, hunique⟩, (h.mapId item hmem).symm.trans hmap,
      (h.mapGeneration item hmem).symm.trans hgeneration, hverified⟩

/-- A store resolves exactly the requests that mention one landmark, in any order of its file. -/
structure ExactResolution (lib : LandmarkLibrary) (raw : PyValue) (store : LandmarkStore) :
    Prop where
  resolved : ∀ request item,
    store.resolve lib request = .ok item ↔ Resolves lib store request item
  /-- A file in another order is accepted, and every request has the same outcome. -/
  reordered : ∀ raw', Reordered raw raw' → ∃ store',
    LandmarkStore.fromMapping lib raw' = .ok store' ∧
      ∀ request, store'.resolve lib request = store.resolve lib request

/-- **A request resolves exactly to the one navigable landmark that it mentions**, whatever the
order of the landmarks. -/
theorem exactResolution {raw : PyValue} {store : LandmarkStore}
    (h : LandmarkStore.fromMapping lib raw = .ok store) : ExactResolution lib raw store where
  resolved _ _ := (sound_of_fromMapping h).resolves_iff
  reordered raw' hraw := by
    obtain ⟨landmarks, hload, hperm⟩ := fromMapping_reordered h hraw
    exact ⟨_, hload, (sound_of_fromMapping h).resolve_perm hperm⟩

/-! ## Own names -/

/-- Each verified navigation landmark is found by each of its own terms. -/
def Reachable (lib : LandmarkLibrary) (store : LandmarkStore) : Prop :=
  ∀ item ∈ store.landmarks, item.navigable = true → item.verified = true →
    ∀ term ∈ item.terms, ∀ requireVerified,
      store.resolve lib ⟨term, item.mapId, item.mapGeneration, requireVerified⟩ = .ok item

/-- No term of a verified navigation landmark contains a term of another navigation landmark. -/
def Uncontained (lib : LandmarkLibrary) (store : LandmarkStore) : Prop :=
  ∀ item ∈ store.landmarks, item.navigable = true → item.verified = true →
    ∀ other ∈ store.landmarks, other.navigable = true → other.id ≠ item.id →
      ∀ term ∈ item.terms, ∀ term' ∈ other.terms,
        occursIn (lib.normalizeText term') (lib.normalizeText term) = false

lemma mentions_self {item : Landmark} {term : String} (hterm : term ∈ item.terms) :
    Mentions lib term item :=
  ⟨term, hterm, decide_eq_true List.infix_rfl⟩

/-- **Every landmark of a file is found by its own names, exactly if no name contains a name of
another landmark.** -/
theorem reachable_iff_uncontained {raw : PyValue} {store : LandmarkStore}
    (h : LandmarkStore.fromMapping lib raw = .ok store) :
    Reachable lib store ↔ Uncontained lib store := by
  have hsound := sound_of_fromMapping h
  constructor
  · intro hreach item hitem hnavigable hverified other hother hnavigable' hid term hterm
      term' hterm'
    by_contra hcontained
    rw [Bool.not_eq_false] at hcontained
    have hresolves := hsound.resolves_iff.mp
      (hreach item hitem hnavigable hverified term hterm true)
    have hsame := hresolves.unique other hother hnavigable' ⟨term', hterm', hcontained⟩
    exact hid (congrArg Landmark.id hsame)
  · intro hfree item hitem hnavigable hverified term hterm requireVerified
    refine hsound.resolves_iff.mpr ⟨hitem, hnavigable, mentions_self hterm, ?_, rfl, rfl,
      fun _ => hverified⟩
    rintro other hother hnavigable' ⟨term', hterm', hoccurs⟩
    by_contra hne
    have hid : other.id ≠ item.id := fun heq => hne (hsound.eq_of_id hother hitem heq)
    have hfree' := hfree item hitem hnavigable hverified other hother hnavigable' hid term hterm
      term' hterm'
    rw [hoccurs] at hfree'
    cases hfree'

/-! ## Two files -/

/-- The library on texts without separators, without regions and with the yaw zero. -/
def plainLandmarkLibrary : LandmarkLibrary where
  text
    | .str text => text
    | _ => ""
  strip text := text
  repr text := "'" ++ text ++ "'"
  normalizeText text := text
  parseFloat _ := none
  normalizeYaw yaw := yaw
  crossSum _ := .fin 0

/-- A verified navigation landmark at the origin. -/
def landmarkRow (id name : String) (aliases : List String) : PyValue :=
  .dict [("id", .str id), ("name", .str name), ("aliases", .list (aliases.map PyValue.str)),
    ("verified", .bool true),
    ("pose", .dict [("x", .int 0), ("y", .int 0), ("yaw", .int 0)])]

def landmarkFile (rows : List PyValue) : PyValue :=
  .dict [("schema_version", .int 2), ("map_id", .str "lab_go2"), ("map_generation", .int 7),
    ("landmarks", .list rows)]

def vendingFile : PyValue :=
  landmarkFile [landmarkRow "vending_machine_front" "自动售货机" ["售货机"],
    landmarkRow "meeting_room_east" "东侧会议室" ["东会议室"]]

theorem exactResolution_vendingFile : ∃ store,
    LandmarkStore.fromMapping plainLandmarkLibrary vendingFile = .ok store ∧
      ExactResolution plainLandmarkLibrary vendingFile store := by
  have hloads : (LandmarkStore.fromMapping plainLandmarkLibrary vendingFile).toOption.isSome :=
    by decide +kernel
  obtain ⟨store, hstore⟩ := Option.isSome_iff_exists.mp hloads
  exact ⟨store, toOption_eq_some_iff.mp hstore, exactResolution (toOption_eq_some_iff.mp hstore)⟩

theorem reachable_iff_uncontained_vendingFile : ∃ store,
    LandmarkStore.fromMapping plainLandmarkLibrary vendingFile = .ok store ∧
      Reachable plainLandmarkLibrary store := by
  have hloads : (LandmarkStore.fromMapping plainLandmarkLibrary vendingFile).toOption.any
      (fun store => store.landmarks.all fun item => store.landmarks.all fun other =>
        other.id = item.id || item.terms.all fun term => other.terms.all fun term' =>
          !occursIn term' term) = true := by
    decide +kernel
  obtain ⟨store, hstore, hfree⟩ := (Option.any_eq_true _ _).mp hloads
  refine ⟨store, toOption_eq_some_iff.mp hstore,
    (reachable_iff_uncontained (toOption_eq_some_iff.mp hstore)).mpr ?_⟩
  intro item hitem _ _ other hother _ hid term hterm term' hterm'
  have hpair := List.all_eq_true.mp (List.all_eq_true.mp hfree item hitem) other hother
  rw [Bool.or_eq_true, decide_eq_true_eq] at hpair
  have hterms := hpair.resolve_left hid
  have hfalse := List.all_eq_true.mp (List.all_eq_true.mp hterms term hterm) term' hterm'
  rwa [Bool.not_eq_true'] at hfalse

/-- The name of the second landmark contains the name of the first. -/
def doorFile : PyValue :=
  landmarkFile [landmarkRow "lab_door" "大门" [], landmarkRow "door_front" "大门口" []]

theorem not_reachable_doorFile : ¬ ∀ store,
    LandmarkStore.fromMapping plainLandmarkLibrary doorFile = .ok store →
      Reachable plainLandmarkLibrary store := by
  intro h
  have hloads : (LandmarkStore.fromMapping plainLandmarkLibrary doorFile).toOption.any (fun store =>
      store.landmarks.any fun item => item.navigable && item.verified && item.name = "大门口" &&
        (store.resolve plainLandmarkLibrary ⟨"大门口", item.mapId, item.mapGeneration, true⟩
          ).toOption.isNone) = true := by
    decide +kernel
  obtain ⟨store, hstore, hitem⟩ := (Option.any_eq_true _ _).mp hloads
  obtain ⟨item, hmem, hitem⟩ := List.any_eq_true.mp hitem
  simp only [Bool.and_eq_true, decide_eq_true_eq] at hitem
  obtain ⟨⟨⟨hnavigable, hverified⟩, hname⟩, hnone⟩ := hitem
  have hfound := h store (toOption_eq_some_iff.mp hstore) item hmem hnavigable hverified "大门口"
    (by rw [← hname]; exact List.mem_cons_self) true
  rw [hfound] at hnone
  cases hnone

end UnitreeGo2.SemanticNavigation
