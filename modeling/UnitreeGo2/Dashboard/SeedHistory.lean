import UnitreeGo2.Dashboard.InitialPoseStore
import Mathlib.Data.List.Basic

/-!
# The seeds of a map

One sidecar holds the seed of a map, whatever its generation, and the history of a deployment
tells which seed that is.
-/

namespace UnitreeGo2.Dashboard

open InitialPoseStore

/-! ## What the history says -/

abbrev StoreStep (C : Type) := Machine.Step (Deployment C) StoreEvent (Except Raised Answer)

/-- A map and its generation. -/
abbrev MapKey := String × ℕ

def MapIdentity.key (identity : MapIdentity) : MapKey := (identity.mapId, identity.generation)

lemma MapIdentity.key_eq_iff {identity : MapIdentity} {mapId : String} {generation : ℕ} :
    identity.key = (mapId, generation) ↔
      identity.mapId = mapId ∧ identity.generation = generation :=
  Prod.mk_inj

section Histories

variable {C : Type} (lib : Library C)

/-- The pose that a step saves, and what it is saved for. -/
def savedBy (x : StoreStep C) : Option (MapKey × Pose) :=
  match x.event, x.output, x.pre.store.identity with
  | .saveOperatorPose pose _ _, .ok _, some identity =>
    match normalizePose lib x.pre.store.frameId pose with
    | .ok normalized => some (identity.key, normalized)
    | .error _ => none
  | _, _, _ => none

/-- What a step resets. -/
def resetBy (x : StoreStep C) : Option MapKey :=
  match x.event, x.output, x.pre.store.identity with
  | .reset _ _ _, .ok _, some identity => some identity.key
  | _, _, _ => none

/-- The seed for a key after a step. -/
def seedAfter (key : MapKey) (seed : Option Pose) (x : StoreStep C) : Option Pose :=
  match savedBy lib x with
  | some (other, pose) => if other = key then some pose else seed
  | none => if resetBy x = some key then none else seed

/-- The last pose that was saved for a key, unless it has been reset. -/
def lastSeed (tr : List (StoreStep C)) (key : MapKey) : Option Pose :=
  tr.foldl (seedAfter lib key) none

/-- The last lifecycle that was observed is a valid identity with a verified artifact. -/
def Observed (tr : List (StoreStep C)) (identity : MapIdentity) : Prop :=
  ∃ a o b mapId mode generation, tr = a ++ o :: b ∧
    o.event = .observeLifecycle mapId mode generation ∧
    identityOf lib mapId mode generation = .ok identity ∧
    verifyArtifact lib o.pre.files identity = .ok () ∧
    ∀ y ∈ b, (∀ m n g, y.event ≠ .observeLifecycle m n g) ∧ y.event ≠ .restart

/-- Operator seeds belong to their map generation and stay manageable. -/
structure SeedsManaged (tr : List (StoreStep C)) : Prop where
  /-- What is restored is the last seed of the live map generation. -/
  restored : ∀ l x r mapId generation saved, tr = l ++ x :: r →
    x.event = .restorePose mapId generation → x.output = .ok (.restored saved) →
    ∃ identity, x.pre.store.identity = some identity ∧
      verifyArtifact lib x.pre.files identity = .ok () ∧
      (saved.mapId = identity.mapId ∧ saved.generation = identity.generation) ∧
      lastSeed lib l identity.key = some saved.pose
  /-- A valid pose is saved, and can be restored. -/
  saves : ∀ l x r identity pose stamp capturedAt normalized, tr = l ++ x :: r →
    Observed lib l identity → identity.mode = "localization" →
    x.event = .saveOperatorPose pose stamp capturedAt →
    verifyArtifact lib x.pre.files identity = .ok () →
    normalizePose lib x.pre.store.frameId pose = .ok normalized →
    (∃ status, x.output = .ok (.status status)) ∧
      ∀ mapId generation, mapIdOf lib mapId = .ok identity.mapId →
        generationOf generation "generation" = .ok identity.generation →
        ∃ saved, ((poseStore lib).step x.post (.restorePose mapId generation)).1 =
          .ok (.restored saved) ∧ saved.pose = normalized
  /-- No document of a seed is lost. -/
  kept : ∀ x ∈ tr, ∀ path content, x.pre.files.seeds path = some content →
    ∃ path', x.post.files.seeds path' = some content

/-- A lifecycle for localization is observed while no seed of another generation of its map is
active, and nothing is archived under a name that is taken. -/
def Unobstructed (l : List (StoreStep C)) (x : StoreStep C) : Prop :=
  match x.event with
  | .observeLifecycle mapId mode generation =>
    ∀ identity, identityOf lib mapId mode generation = .ok identity →
      identity.mode = "localization" → verifyArtifact lib x.pre.files identity = .ok () →
      ∀ other, other ≠ identity.generation → lastSeed lib l (identity.mapId, other) = none
  | .saveOperatorPose _ stamp _ =>
    ∀ identity, x.pre.store.identity = some identity →
      x.pre.files.seeds (.sidecar identity.mapId) ≠ none →
      x.pre.files.seeds (.archive identity.mapId stamp) = none
  | .reset _ _ stamp =>
    ∀ identity, x.pre.store.identity = some identity →
      x.pre.files.seeds (.disabled identity.mapId stamp) = none
  | _ => True

variable {lib}

lemma lastSeed_concat (tr : List (StoreStep C)) (x : StoreStep C) (key : MapKey) :
    lastSeed lib (tr ++ [x]) key = seedAfter lib key (lastSeed lib tr key) x := by
  rw [lastSeed, List.foldl_append]
  rfl

/-- A lifecycle that is observed last. -/
lemma Observed.last {tr : List (StoreStep C)} {x : StoreStep C} {identity : MapIdentity}
    {mapId mode generation : PyValue} (h : Observed lib (tr ++ [x]) identity)
    (hx : x.event = .observeLifecycle mapId mode generation) :
    identityOf lib mapId mode generation = .ok identity ∧
      verifyArtifact lib x.pre.files identity = .ok () := by
  obtain ⟨a, o, b, m, n, g, htr, hevent, hidentity, hverify, hb⟩ := h
  obtain rfl | ⟨b', z, rfl⟩ := b.eq_nil_or_concat'
  · obtain rfl : x = o := List.singleton_inj.mp (List.append_inj' htr rfl).2
    rw [hx] at hevent
    cases hevent
    exact ⟨hidentity, hverify⟩
  · rw [← List.cons_append, ← List.append_assoc] at htr
    obtain rfl : x = z := List.singleton_inj.mp (List.append_inj' htr rfl).2
    exact absurd hx ((hb x (by simp)).1 _ _ _)

lemma Observed.concat {tr : List (StoreStep C)} {x : StoreStep C} {identity : MapIdentity}
    (h : Observed lib (tr ++ [x]) identity)
    (hx : ∀ m n g, x.event ≠ .observeLifecycle m n g) :
    Observed lib tr identity ∧ x.event ≠ .restart := by
  obtain ⟨a, o, b, mapId, mode, generation, htr, hevent, hidentity, hverify, hb⟩ := h
  obtain rfl | ⟨b', z, rfl⟩ := b.eq_nil_or_concat'
  · obtain rfl : x = o := List.singleton_inj.mp (List.append_inj' htr rfl).2
    exact absurd hevent (hx _ _ _)
  · rw [← List.cons_append, ← List.append_assoc] at htr
    obtain ⟨hinit, hlast⟩ := List.append_inj' htr rfl
    obtain rfl : x = z := List.singleton_inj.mp hlast
    exact ⟨⟨a, o, b', mapId, mode, generation, hinit, hevent, hidentity, hverify,
      fun y hy => hb y (List.mem_append_left _ hy)⟩, (hb x (by simp)).2⟩

end Histories

/-! ## Reading back a seed -/

/-- What the documentation of Python and of PyYAML says. -/
structure Library.Documented {C : Type} (lib : Library C) : Prop where
  /-- A map id has no blanks to strip. -/
  strip : ∀ text, matchesMapId text = true → lib.strip text = text
  text_str : ∀ text, lib.text (.str text) = text
  /-- The documents of the store are read back as they were written. -/
  load_dump : ∀ (store : InitialPoseStore) identity pose capturedAt,
    lib.safeLoad (lib.safeDump (store.seedDocument identity pose capturedAt)) =
      .ok (store.seedDocument identity pose capturedAt)

/-- The checks of an identity. -/
structure MapIdentity.Valid (identity : MapIdentity) : Prop where
  grammar : matchesMapId identity.mapId = true
  dots : identity.mapId ≠ "." ∧ identity.mapId ≠ ".."
  generation : (identity.generation : ℤ) ≤ UINT64_MAX

/-- The checks of a pose. -/
structure Pose.Normalized {C : Type} (lib : Library C) (frameId : String) (pose : Pose) : Prop where
  frameId : pose.frameId = frameId
  norm : normRefused (lib.norm [pose.orientation.1, pose.orientation.2.1, pose.orientation.2.2.1,
    pose.orientation.2.2.2]) = false
  covariance : pose.covariance.length = 36

section Reading

variable {C : Type} {lib : Library C} {store : InitialPoseStore} {files : Files C}
  {identity : MapIdentity}
  {pose : Pose}

lemma mapIdOf_str (hlib : lib.Documented) (h : identity.Valid) :
    mapIdOf lib (.str identity.mapId) = .ok identity.mapId := by
  unfold mapIdOf stripped
  dsimp only
  rw [hlib.strip _ h.grammar, if_neg]
  rintro (hgrammar | hdot | hdots)
  · exact hgrammar h.grammar
  · exact h.dots.1 hdot
  · exact h.dots.2 hdots

lemma generationOf_int (h : identity.Valid) (label : String) :
    generationOf (.int identity.generation) label = .ok identity.generation := by
  have hrange : ¬ ((identity.generation : ℤ) < 0 ∨ UINT64_MAX < (identity.generation : ℤ)) := by
    have := h.generation
    omega
  show (if _ then _ else Except.ok _) = _
  rw [if_neg hrange, Int.toNat_natCast]

lemma finite_float (x : ℚ) (label : String) : finite lib (.float (.fin x)) label = .ok x := rfl

lemma finiteEntries_float (index : ℕ) (entries : List ℚ) :
    finiteEntries lib index (entries.map fun entry => .float (.fin entry)) = .ok entries := by
  induction entries generalizing index with
  | nil => rfl
  | cons entry entries ih =>
    rw [List.map_cons, finiteEntries, finite_float, ih]
    rfl

lemma length_of_finiteEntries {index : ℕ} {values : List PyValue} {entries : List ℚ}
    (h : finiteEntries lib index values = .ok entries) : entries.length = values.length := by
  induction values generalizing index entries with
  | nil =>
    cases h
    rfl
  | cons value values ih =>
    rw [finiteEntries] at h
    cases hfirst : finite lib value s!"covariance[{index}]" with
    | error raised =>
      rw [hfirst] at h
      cases h
    | ok first =>
      rw [hfirst] at h
      cases hrest : finiteEntries lib (index + 1) values with
      | error raised =>
        simp only [bind, Except.bind, hrest] at h
        cases h
      | ok rest =>
        simp only [bind, Except.bind, hrest] at h
        cases h
        rw [List.length_cons, List.length_cons, ih hrest]

/-- What a pose is after `normalize_pose`. -/
lemma normalized_of_normalizePose {frameId : String} {value : Items}
    (h : normalizePose lib frameId value = .ok pose) : pose.Normalized lib frameId := by
  unfold normalizePose at h
  split at h
  · cases h
  split at h
  · split at h
    · split at h
      · cases h
      · rename_i covariance _ hlength
        obtain ⟨x, -, h⟩ := Except.bind_eq_ok_iff.mp h
        obtain ⟨y, -, h⟩ := Except.bind_eq_ok_iff.mp h
        obtain ⟨z, -, h⟩ := Except.bind_eq_ok_iff.mp h
        obtain ⟨qx, -, h⟩ := Except.bind_eq_ok_iff.mp h
        obtain ⟨qy, -, h⟩ := Except.bind_eq_ok_iff.mp h
        obtain ⟨qz, -, h⟩ := Except.bind_eq_ok_iff.mp h
        obtain ⟨qw, -, h⟩ := Except.bind_eq_ok_iff.mp h
        split at h
        · cases h
        rename_i hnorm
        obtain ⟨entries, hentries, h⟩ := Except.bind_eq_ok_iff.mp h
        cases h
        refine ⟨rfl, by simpa using hnorm, ?_⟩
        rw [length_of_finiteEntries hentries]
        exact not_not.mp hlength
    · cases h
  · cases h

/-- A normalized pose is normalized to itself. -/
lemma normalizePose_seed (hlib : lib.Documented) (h : pose.Normalized lib store.frameId) :
    normalizePose lib store.frameId
      [("frame_id", .str store.frameId),
        ("position", .dict [("x", .float (.fin pose.position.1)),
          ("y", .float (.fin pose.position.2.1)), ("z", .float (.fin pose.position.2.2))]),
        ("orientation", .dict [("x", .float (.fin pose.orientation.1)),
          ("y", .float (.fin pose.orientation.2.1)), ("z", .float (.fin pose.orientation.2.2.1)),
          ("w", .float (.fin pose.orientation.2.2.2))]),
        ("covariance", .list (pose.covariance.map fun entry => .float (.fin entry)))] =
      .ok pose := by
  unfold normalizePose
  have hframe : lib.text ((([("frame_id", PyValue.str store.frameId),
        ("position", .dict [("x", .float (.fin pose.position.1)),
          ("y", .float (.fin pose.position.2.1)), ("z", .float (.fin pose.position.2.2))]),
        ("orientation", .dict [("x", .float (.fin pose.orientation.1)),
          ("y", .float (.fin pose.orientation.2.1)), ("z", .float (.fin pose.orientation.2.2.1)),
          ("w", .float (.fin pose.orientation.2.2.2))]),
        ("covariance", .list (pose.covariance.map fun entry => .float (.fin entry)))] :
        Items).lookup "frame_id").getD (.str "")) = store.frameId := hlib.text_str _
  rw [if_neg (not_not.mpr hframe)]
  have hlength : (pose.covariance.map fun entry => PyValue.float (.fin entry)).length = 36 := by
    rw [List.length_map, h.covariance]
  obtain ⟨frameId, position, orientation, covariance⟩ := pose
  obtain rfl : frameId = store.frameId := h.frameId
  show (if _ then _ else _) = _
  rw [if_neg (not_not.mpr hlength)]
  show (if _ then _ else _) = _
  rw [if_neg (by simpa using h.norm)]
  show (finiteEntries lib 0 _ >>= _) = _
  rw [finiteEntries_float]
  rfl

/-- A document is read back for its own generation. -/
lemma readDocument_seed (hlib : lib.Documented) {other : MapIdentity} (hvalid : other.Valid)
    (hmap : other.mapId = identity.mapId) (hpose : pose.Normalized lib store.frameId)
    (capturedAt : String) :
    readDocument lib store identity (store.seedDocument other pose capturedAt) =
      if other.generation ≠ identity.generation then
        .error (.initialPoseError "saved initial pose belongs to a different map generation")
      else
        .ok ⟨pose, identity.mapId, identity.generation,
          .dict [("kind", .str "operator_initialpose_observed_by_dashboard"),
            ("captured_at", .str capturedAt)],
          s!"{store.root}/{(SeedPath.sidecar identity.mapId).name}"⟩ := by
  have hid := mapIdOf_str hlib hvalid
  have hgeneration := generationOf_int hvalid "map_generation"
  have hnormal := normalizePose_seed hlib hpose
  show (mapIdOf lib (.str other.mapId) >>= _) = _
  rw [hid]
  show (if other.mapId ≠ identity.mapId then _ else _) = _
  rw [if_neg (not_not.mpr hmap)]
  show (generationOf (.int other.generation) "map_generation" >>= _) = _
  rw [hgeneration]
  show (if other.generation ≠ identity.generation then _ else _) = _
  split
  · rfl
  · exact congrArg (fun result : Except Raised Pose => result >>= fun normalized =>
      Except.ok (Saved.mk normalized _ _ _ _)) hnormal

/-- What the sidecar of a map holds: nothing, or one seed. -/
inductive Holds (lib : Library C) (store : InitialPoseStore) (files : Files C) (mapId : String) :
    Option (ℕ × Pose) → Prop
  | nothing (h : files.seeds (.sidecar mapId) = none) : Holds lib store files mapId none
  | seed (identity : MapIdentity) (pose : Pose) (capturedAt : String) (hvalid : identity.Valid)
      (hmap : identity.mapId = mapId) (hpose : pose.Normalized lib store.frameId)
      (h : files.seeds (.sidecar mapId) =
        some (lib.safeDump (store.seedDocument identity pose capturedAt))) :
      Holds lib store files mapId (some (identity.generation, pose))

/-- A map without a seed. -/
lemma readSidecar_nothing (h : Holds lib store files identity.mapId none) :
    readSidecar lib store files identity = .ok none := by
  cases h with
  | nothing h =>
    unfold readSidecar
    rw [h]

/-- The seed of the identity is read. -/
lemma readSidecar_own (hlib : lib.Documented)
    (h : Holds lib store files identity.mapId (some (identity.generation, pose))) :
    ∃ saved, readSidecar lib store files identity = .ok (some saved) ∧ saved.pose = pose ∧
      saved.mapId = identity.mapId ∧ saved.generation = identity.generation := by
  generalize hseed : some (identity.generation, pose) = seed at h
  cases h with
  | nothing => cases hseed
  | seed other pose' capturedAt hvalid hmap hpose h =>
    obtain ⟨hgeneration, rfl⟩ := Prod.mk.inj (Option.some.inj hseed)
    refine ⟨⟨pose, identity.mapId, identity.generation,
      .dict [("kind", .str "operator_initialpose_observed_by_dashboard"),
        ("captured_at", .str capturedAt)],
      s!"{store.root}/{(SeedPath.sidecar identity.mapId).name}"⟩, ?_, rfl, rfl, rfl⟩
    unfold readSidecar
    rw [h]
    dsimp only
    rw [hlib.load_dump]
    dsimp only
    rw [readDocument_seed hlib hvalid hmap hpose, if_neg (not_not.mpr hgeneration.symm)]
    rfl

/-- The seed of another generation is refused. -/
lemma readSidecar_other (hlib : lib.Documented) {generation : ℕ}
    (h : Holds lib store files identity.mapId (some (generation, pose)))
    (hne : generation ≠ identity.generation) :
    readSidecar lib store files identity =
      .error (.initialPoseError "saved initial pose belongs to a different map generation") := by
  generalize hseed : some (generation, pose) = seed at h
  cases h with
  | nothing => cases hseed
  | seed other pose' capturedAt hvalid hmap hpose h =>
    obtain ⟨rfl, rfl⟩ := Prod.mk.inj (Option.some.inj hseed)
    unfold readSidecar
    rw [h]
    dsimp only
    rw [hlib.load_dump]
    dsimp only
    rw [readDocument_seed hlib hvalid hmap hpose, if_pos hne]
    rfl

end Reading

/-! ## What the calls do -/

section Calls

variable {C : Type} {lib : Library C} {store : InitialPoseStore} {files : Files C}
  {identity : MapIdentity}

lemma requireIdentity_eq_ok_iff :
    requireIdentity lib store files = .ok identity ↔
      store.identity = some identity ∧ verifyArtifact lib files identity = .ok () := by
  unfold requireIdentity
  cases store.identity with
  | none => simp
  | some other =>
    cases hverify : verifyArtifact lib files other with
    | error raised =>
      simp only [hverify, Except.map, Option.some.injEq]
      constructor
      · intro h
        cases h
      · rintro ⟨rfl, h⟩
        rw [hverify] at h
        cases h
    | ok unit =>
      simp only [hverify, Except.map, Option.some.injEq, Except.ok.injEq]
      constructor
      · rintro rfl
        exact ⟨rfl, hverify⟩
      · exact fun h => h.1

lemma requireLocalizationIdentity_eq_ok_iff :
    requireLocalizationIdentity lib store files = .ok identity ↔
      (store.identity = some identity ∧ verifyArtifact lib files identity = .ok ()) ∧
        identity.mode = "localization" := by
  unfold requireLocalizationIdentity
  rw [Except.bind_eq_ok_iff]
  constructor
  · rintro ⟨other, hother, h⟩
    split at h
    · cases h
    · rename_i hmode
      cases h
      exact ⟨requireIdentity_eq_ok_iff.mp hother, not_not.mp hmode⟩
  · rintro ⟨hidentity, hmode⟩
    refine ⟨identity, requireIdentity_eq_ok_iff.mpr hidentity, ?_⟩
    rw [if_neg (not_not.mpr hmode)]
    rfl

/-- The checks that an observed identity has passed. -/
lemma valid_of_identityOf {mapId mode generation : PyValue}
    (h : identityOf lib mapId mode generation = .ok identity) : identity.Valid := by
  unfold identityOf at h
  obtain ⟨m, hm, h⟩ := Except.bind_eq_ok_iff.mp h
  obtain ⟨g, hg, h⟩ := Except.bind_eq_ok_iff.mp h
  dsimp only at h
  split at h
  · cases h
  cases h
  unfold mapIdOf at hm
  dsimp only at hm
  split at hm
  · cases hm
  rename_i hgrammar
  cases hm
  unfold generationOf at hg
  split at hg
  · cases hg
  split at hg
  · cases hg
  rename_i n _ hrange
  cases hg
  simp only [not_or, not_not, not_lt] at hgrammar hrange
  refine ⟨hgrammar.1, hgrammar.2, ?_⟩
  show ((n.toNat : ℕ) : ℤ) ≤ _
  rw [Int.toNat_of_nonneg hrange.1]
  exact hrange.2

/-- A refused lifecycle leaves no identity. -/
lemma refuse_initialPoseError (store : InitialPoseStore) (detail : String) :
    (store.refuse (.initialPoseError detail)).2 =
      { store with identity := none, saved := none, error := detail } := rfl

lemma identityOf_raises {mapId mode generation : PyValue} {raised : Raised}
    (h : identityOf lib mapId mode generation = .error raised) :
    ∃ detail, raised = .initialPoseError detail := by
  unfold identityOf at h
  cases hm : mapIdOf lib mapId with
  | error other =>
    rw [hm] at h
    cases h
    unfold mapIdOf at hm
    dsimp only at hm
    split at hm <;> cases hm
    exact ⟨_, rfl⟩
  | ok m =>
    rw [hm] at h
    cases hg : generationOf generation "generation" with
    | error other =>
      rw [hg] at h
      cases h
      unfold generationOf at hg
      split at hg
      · cases hg
        exact ⟨_, rfl⟩
      split at hg <;> cases hg
      exact ⟨_, rfl⟩
    | ok g =>
      rw [hg] at h
      simp only [bind, Except.bind] at h
      split at h <;> cases h
      exact ⟨_, rfl⟩

lemma verifyArtifact_raises {raised : Raised}
    (h : verifyArtifact lib files identity = .error raised) :
    ∃ detail, raised = .initialPoseError detail := by
  unfold verifyArtifact at h
  dsimp only at h
  split at h
  · cases h
    exact ⟨_, rfl⟩
  split at h
  · cases h
    exact ⟨_, rfl⟩
  split at h <;> cases h
  exact ⟨_, rfl⟩

/-- A lifecycle that the store takes is a valid identity whose artifact and sidecar can be
read. -/
lemma observeLifecycle_cases (store : InitialPoseStore) (files : Files C)
    (mapId mode generation : PyValue)
    (hread : ∀ identity, identityOf lib mapId mode generation = .ok identity →
      (∃ saved, readSidecar lib store files identity = .ok saved) ∨
        ∃ detail, readSidecar lib store files identity = .error (.initialPoseError detail)) :
    (∃ detail, (store.observeLifecycle lib files mapId mode generation).2 =
        { store with identity := none, saved := none, error := detail } ∧
        ∀ identity saved, identityOf lib mapId mode generation = .ok identity →
          verifyArtifact lib files identity = .ok () →
          readSidecar lib store files identity ≠ .ok saved) ∨
      ∃ identity saved, identityOf lib mapId mode generation = .ok identity ∧
        verifyArtifact lib files identity = .ok () ∧
        readSidecar lib store files identity = .ok saved ∧
        (store.observeLifecycle lib files mapId mode generation).2 =
          { store with
            identity := some identity
            saved := saved
            error := if saved.isSome then ""
              else "no operator initial pose saved for this map generation" } := by
  unfold observeLifecycle
  cases hidentity : identityOf lib mapId mode generation with
  | error raised =>
    obtain ⟨detail, rfl⟩ := identityOf_raises hidentity
    exact .inl ⟨detail, rfl, fun _ _ h => by cases h⟩
  | ok identity =>
    dsimp only
    cases hverify : verifyArtifact lib files identity with
    | error raised =>
      obtain ⟨detail, rfl⟩ := verifyArtifact_raises hverify
      refine .inl ⟨detail, rfl, fun other saved hother hok => ?_⟩
      cases hother
      rw [hverify] at hok
      cases hok
    | ok unit =>
      dsimp only
      rcases hread identity hidentity with ⟨saved, hsaved⟩ | ⟨detail, herror⟩
      · rw [hsaved]
        exact .inr ⟨identity, saved, rfl, hverify, hsaved, rfl⟩
      · rw [herror]
        refine .inl ⟨detail, rfl, fun other saved hother _ hok => ?_⟩
        cases hother
        rw [herror] at hok
        cases hok

/-- A call of `restore_pose` fails, or reads the sidecar of the live identity. -/
lemma restorePose_cases (lib : Library C) (store : InitialPoseStore) (files : Files C)
    (mapId generation : PyValue) :
    (∃ raised, store.restorePose lib files mapId generation = (.error raised, store)) ∨
      ∃ identity saved, (store.identity = some identity ∧
        verifyArtifact lib files identity = .ok ()) ∧
        readSidecar lib store files identity = .ok (some saved) ∧
        store.restorePose lib files mapId generation = (.ok (.restored saved),
          { store with saved := some saved, error := "", lastAction := "restore_requested" }) := by
  unfold restorePose
  dsimp only
  split
  · exact .inl ⟨_, rfl⟩
  rename_i saved hresult
  refine .inr ?_
  obtain ⟨identity, hidentity, h⟩ := Except.bind_eq_ok_iff.mp hresult
  obtain ⟨m, -, h⟩ := Except.bind_eq_ok_iff.mp h
  split at h
  · cases h
  obtain ⟨g, -, h⟩ := Except.bind_eq_ok_iff.mp h
  split at h
  · cases h
  obtain ⟨found, hfound, h⟩ := Except.bind_eq_ok_iff.mp h
  cases found with
  | none => cases h
  | some found =>
    cases h
    exact ⟨identity, saved, (requireLocalizationIdentity_eq_ok_iff.mp hidentity).1, hfound, rfl⟩

/-- A confirmed `restore_pose` returns the seed of the live identity. -/
lemma restorePose_of_saved {mapId generation : PyValue} {saved : Saved}
    (hidentity : requireLocalizationIdentity lib store files = .ok identity)
    (hmap : mapIdOf lib mapId = .ok identity.mapId)
    (hgeneration : generationOf generation "generation" = .ok identity.generation)
    (hsaved : readSidecar lib store files identity = .ok (some saved)) :
    (store.restorePose lib files mapId generation).1 = .ok (.restored saved) := by
  unfold restorePose
  rw [hidentity, hmap, hgeneration]
  simp only [bind, Except.bind, hsaved, pure, Except.pure, ne_eq, not_true_eq_false, if_false]

/-- A call of `reset` fails, or moves the sidecar of the live identity away. -/
lemma reset_cases (lib : Library C) (store : InitialPoseStore) (files : Files C)
    (mapId generation : PyValue) (stamp : Timestamp) :
    (∃ raised, store.reset lib files mapId generation stamp = (.error raised, store, files)) ∨
      ∃ identity status, store.identity = some identity ∧
        store.reset lib files mapId generation stamp = (.ok (.status status),
          { store with
            saved := none
            error := "operator initial pose reset; archived recoverably"
            lastAction := "reset_archived" },
          files.replace (.sidecar identity.mapId) (.disabled identity.mapId stamp)) := by
  unfold reset
  dsimp only
  split
  · exact .inl ⟨_, rfl⟩
  rename_i identity hresult
  obtain ⟨other, hidentity, h⟩ := Except.bind_eq_ok_iff.mp hresult
  obtain ⟨m, -, h⟩ := Except.bind_eq_ok_iff.mp h
  split at h
  · cases h
  obtain ⟨g, -, h⟩ := Except.bind_eq_ok_iff.mp h
  split at h
  · cases h
  split at h
  · cases h
  cases h
  exact .inr ⟨identity, _, (requireIdentity_eq_ok_iff.mp hidentity).1, rfl⟩

/-- The files after a save: the old seed is copied, and the new one written. -/
def savedFiles (lib : Library C) (store : InitialPoseStore) (files : Files C)
    (identity : MapIdentity) (normalized : Pose) (stamp : Timestamp) (capturedAt : String) :
    Files C :=
  (if (files.seeds (.sidecar identity.mapId)).isSome then
      files.copy (.sidecar identity.mapId) (.archive identity.mapId stamp)
    else files).write (.sidecar identity.mapId)
      (lib.safeDump (store.seedDocument identity normalized capturedAt))

/-- A call of `save_operator_pose` fails, or saves the pose for the live identity. -/
lemma saveOperatorPose_cases (hlib : lib.Documented) (store : InitialPoseStore) (files : Files C)
    (hvalid : ∀ identity, store.identity = some identity → identity.Valid) (pose : Items)
    (stamp : Timestamp) (capturedAt : String) :
    (∃ raised, store.saveOperatorPose lib files pose stamp capturedAt =
        (.error raised, store, files) ∧
        ∀ identity normalized, requireLocalizationIdentity lib store files = .ok identity →
          normalizePose lib store.frameId pose ≠ .ok normalized) ∨
      ∃ identity normalized saved status, store.identity = some identity ∧
        normalizePose lib store.frameId pose = .ok normalized ∧
        store.saveOperatorPose lib files pose stamp capturedAt = (.ok (.status status),
          { store with saved := saved, error := "", lastAction := "saved_operator_pose" },
          savedFiles lib store files identity normalized stamp capturedAt) := by
  unfold saveOperatorPose
  split
  · rename_i raised herror
    refine .inl ⟨raised, rfl, fun identity normalized hok => ?_⟩
    rw [herror] at hok
    cases hok
  rename_i identity hidentity
  split
  · rename_i raised herror
    refine .inl ⟨raised, rfl, fun other normalized _ hok => ?_⟩
    rw [herror] at hok
    cases hok
  rename_i normalized hnormalized
  have hlive := (requireLocalizationIdentity_eq_ok_iff.mp hidentity).1.1
  have hholds : Holds lib store (savedFiles lib store files identity normalized stamp capturedAt)
      identity.mapId (some (identity.generation, normalized)) :=
    .seed identity normalized capturedAt (hvalid identity hlive) rfl
      (normalized_of_normalizePose hnormalized) (if_pos rfl)
  obtain ⟨saved, hsaved, -⟩ := readSidecar_own hlib hholds
  refine .inr ⟨identity, normalized, some saved, InitialPoseStore.status { store with
    saved := some saved, error := "", lastAction := "saved_operator_pose" }, hlive, hnormalized, ?_⟩
  unfold savedFiles at hsaved ⊢
  dsimp only
  rw [hsaved]

end Calls

/-! ## Along a run -/

section Runs

variable {C : Type} {lib : Library C} {tr : List (StoreStep C)} {s : Deployment C}
  {store store' : InitialPoseStore} {files files' : Files C}

/-- The seed for a generation, when a sidecar holds one. -/
def seedFor (seed : Option (ℕ × Pose)) (generation : ℕ) : Option Pose :=
  match seed with
  | some (own, pose) => if own = generation then some pose else none
  | none => none

/-- Every sidecar holds the one seed of its map, and the identity of the store can be the only
one with a seed. -/
structure StoreInv (lib : Library C) (tr : List (StoreStep C)) (s : Deployment C) : Prop where
  sidecar : ∀ mapId, ∃ seed, Holds lib s.store s.files mapId seed ∧
    ∀ generation, lastSeed lib tr (mapId, generation) = seedFor seed generation
  valid : ∀ identity, s.store.identity = some identity → identity.Valid
  own : ∀ identity, s.store.identity = some identity →
    ∀ other, other ≠ identity.generation → lastSeed lib tr (identity.mapId, other) = none

lemma Holds.congr {mapId : String} {seed : Option (ℕ × Pose)} (h : Holds lib store files mapId seed)
    (hframe : store'.frameId = store.frameId)
    (hseeds : files'.seeds (.sidecar mapId) = files.seeds (.sidecar mapId)) :
    Holds lib store' files' mapId seed := by
  cases h with
  | nothing h => exact .nothing (hseeds.trans h)
  | seed identity pose capturedAt hvalid hmap hpose h =>
    refine .seed identity pose capturedAt hvalid hmap (hframe ▸ hpose) (hseeds.trans (h.trans ?_))
    rw [seedDocument, seedDocument, hframe]

/-- A sidecar is read, or refused with a message. -/
lemma StoreInv.readSidecar (hlib : lib.Documented) (h : StoreInv lib tr s)
    (identity : MapIdentity) :
    ((∃ saved, readSidecar lib s.store s.files identity = .ok saved) ∧
        ∀ other, other ≠ identity.generation →
          lastSeed lib tr (identity.mapId, other) = none) ∨
      (∃ detail, readSidecar lib s.store s.files identity = .error (.initialPoseError detail)) ∧
        ∃ other, other ≠ identity.generation ∧
          lastSeed lib tr (identity.mapId, other) ≠ none := by
  obtain ⟨seed, hholds, hseed⟩ := h.sidecar identity.mapId
  cases seed with
  | none => exact .inl ⟨⟨none, readSidecar_nothing hholds⟩, fun other _ => hseed other⟩
  | some seed =>
    obtain ⟨generation, pose⟩ := seed
    by_cases hgeneration : generation = identity.generation
    · subst hgeneration
      obtain ⟨saved, hsaved, -⟩ := readSidecar_own hlib hholds
      refine .inl ⟨⟨some saved, hsaved⟩, fun other hother => (hseed other).trans ?_⟩
      exact if_neg (Ne.symm hother)
    · refine .inr ⟨⟨_, readSidecar_other hlib hholds hgeneration⟩, generation, hgeneration, ?_⟩
      rw [hseed generation, seedFor, if_pos rfl]
      exact Option.some_ne_none _

lemma StoreInv.readable (hlib : lib.Documented) (h : StoreInv lib tr s)
    (mapId mode generation : PyValue) : ∀ identity,
    identityOf lib mapId mode generation = .ok identity →
      (∃ saved, InitialPoseStore.readSidecar lib s.store s.files identity = .ok saved) ∨
        ∃ detail, InitialPoseStore.readSidecar lib s.store s.files identity =
          .error (.initialPoseError detail) := by
  intro identity _
  exact (h.readSidecar hlib identity).imp And.left And.left

/-- A step that neither saves nor resets. -/
lemma StoreInv.quiet (h : StoreInv lib tr s) {x : StoreStep C} (hsaved : savedBy lib x = none)
    (hreset : resetBy x = none) (hframe : x.post.store.frameId = s.store.frameId)
    (hseeds : x.post.files.seeds = s.files.seeds)
    (hidentity : ∀ identity, x.post.store.identity = some identity → identity.Valid ∧
      ∀ other, other ≠ identity.generation → lastSeed lib tr (identity.mapId, other) = none) :
    StoreInv lib (tr ++ [x]) x.post := by
  have hlast : ∀ key, lastSeed lib (tr ++ [x]) key = lastSeed lib tr key := by
    intro key
    rw [lastSeed_concat, seedAfter, hsaved, hreset]
    exact if_neg (Option.some_ne_none key).symm
  refine ⟨fun mapId => ?_, fun identity hid => (hidentity identity hid).1, ?_⟩
  · obtain ⟨seed, hholds, hseed⟩ := h.sidecar mapId
    refine ⟨seed, hholds.congr hframe (congrFun hseeds _), fun generation => ?_⟩
    rw [hlast, hseed]
  · intro identity hid other hother
    rw [hlast]
    exact (hidentity identity hid).2 other hother

/-- A pose is saved for the live identity. -/
lemma StoreInv.saved (h : StoreInv lib tr s) {x : StoreStep C} {identity : MapIdentity}
    {normalized : Pose} {capturedAt : String} (hlive : s.store.identity = some identity)
    (hsaved : savedBy lib x = some (identity.key, normalized))
    (hnormal : normalized.Normalized lib s.store.frameId)
    (hframe : x.post.store.frameId = s.store.frameId)
    (hidentity : x.post.store.identity = s.store.identity)
    (hseed : x.post.files.seeds (.sidecar identity.mapId) =
      some (lib.safeDump (s.store.seedDocument identity normalized capturedAt)))
    (hother : ∀ mapId, mapId ≠ identity.mapId →
      x.post.files.seeds (.sidecar mapId) = s.files.seeds (.sidecar mapId)) :
    StoreInv lib (tr ++ [x]) x.post := by
  have hlast : ∀ key, lastSeed lib (tr ++ [x]) key =
      if identity.key = key then some normalized else lastSeed lib tr key := by
    intro key
    rw [lastSeed_concat, seedAfter, hsaved]
  have hown : ∀ generation, lastSeed lib (tr ++ [x]) (identity.mapId, generation) =
      seedFor (some (identity.generation, normalized)) generation := by
    intro generation
    rw [hlast, seedFor]
    by_cases hgeneration : identity.generation = generation
    · rw [if_pos hgeneration, if_pos (MapIdentity.key_eq_iff.mpr ⟨rfl, hgeneration⟩)]
    · rw [if_neg hgeneration, if_neg fun hkey => hgeneration (MapIdentity.key_eq_iff.mp hkey).2]
      exact h.own identity hlive generation (Ne.symm hgeneration)
  refine ⟨fun mapId => ?_, fun other hid => h.valid other (hidentity ▸ hid), ?_⟩
  · by_cases hmap : mapId = identity.mapId
    · subst hmap
      refine ⟨_, .seed identity normalized capturedAt (h.valid identity hlive) rfl
        (hframe ▸ hnormal) ?_, hown⟩
      rw [hseed, seedDocument, seedDocument, hframe]
    · obtain ⟨seed, hholds, hseed⟩ := h.sidecar mapId
      refine ⟨seed, hholds.congr hframe (hother mapId hmap), fun generation => ?_⟩
      rw [hlast, if_neg fun hkey => hmap (MapIdentity.key_eq_iff.mp hkey).1.symm, hseed]
  · intro other hid generation hgeneration
    rw [hidentity, hlive] at hid
    obtain rfl := Option.some.inj hid
    rw [hown, seedFor, if_neg (Ne.symm hgeneration)]

/-- The seed of the live identity is reset. -/
lemma StoreInv.reset (h : StoreInv lib tr s) {x : StoreStep C} {identity : MapIdentity}
    (hlive : s.store.identity = some identity) (hsaved : savedBy lib x = none)
    (hreset : resetBy x = some identity.key) (hframe : x.post.store.frameId = s.store.frameId)
    (hidentity : x.post.store.identity = s.store.identity)
    (hseed : x.post.files.seeds (.sidecar identity.mapId) = none)
    (hother : ∀ mapId, mapId ≠ identity.mapId →
      x.post.files.seeds (.sidecar mapId) = s.files.seeds (.sidecar mapId)) :
    StoreInv lib (tr ++ [x]) x.post := by
  have hlast : ∀ key, lastSeed lib (tr ++ [x]) key =
      if identity.key = key then none else lastSeed lib tr key := by
    intro key
    rw [lastSeed_concat, seedAfter, hsaved, hreset]
    simp only [Option.some.injEq]
  have hown : ∀ generation, lastSeed lib (tr ++ [x]) (identity.mapId, generation) = none := by
    intro generation
    rw [hlast]
    by_cases hgeneration : identity.generation = generation
    · rw [if_pos (MapIdentity.key_eq_iff.mpr ⟨rfl, hgeneration⟩)]
    · rw [if_neg fun hkey => hgeneration (MapIdentity.key_eq_iff.mp hkey).2]
      exact h.own identity hlive generation (Ne.symm hgeneration)
  refine ⟨fun mapId => ?_, fun other hid => h.valid other (hidentity ▸ hid), ?_⟩
  · by_cases hmap : mapId = identity.mapId
    · subst hmap
      exact ⟨none, .nothing hseed, hown⟩
    · obtain ⟨seed, hholds, hseed⟩ := h.sidecar mapId
      refine ⟨seed, hholds.congr hframe (hother mapId hmap), fun generation => ?_⟩
      rw [hlast, if_neg fun hkey => hmap (MapIdentity.key_eq_iff.mp hkey).1.symm, hseed]
  · intro other hid generation _
    rw [hidentity, hlive] at hid
    obtain rfl := Option.some.inj hid
    exact hown generation

lemma savedFiles_other {identity : MapIdentity} {normalized : Pose} {stamp : Timestamp}
    {capturedAt mapId : String} (hmap : mapId ≠ identity.mapId) :
    (savedFiles lib store files identity normalized stamp capturedAt).seeds (.sidecar mapId) =
      files.seeds (.sidecar mapId) := by
  have hpath : SeedPath.sidecar mapId ≠ .sidecar identity.mapId := fun h =>
    hmap (SeedPath.sidecar.inj h)
  rw [savedFiles, Files.write_seeds, if_neg hpath]
  split
  · rw [Files.copy_seeds, if_neg (by simp)]
  · rfl

/-- **Every call keeps the invariant.** -/
theorem StoreInv.step (hlib : lib.Documented) (h : StoreInv lib tr s) (e : StoreEvent) :
    StoreInv lib (tr ++ [(poseStore lib).stepAt s e]) ((poseStore lib).step s e).2 := by
  cases e with
  | observeLifecycle mapId mode generation =>
    have hread := h.readable hlib mapId mode generation
    rcases observeLifecycle_cases s.store s.files mapId mode generation hread with
      ⟨detail, hpost, -⟩ | ⟨identity, saved, hid, -, hsaved, hpost⟩
    · refine h.quiet rfl rfl ?_ rfl fun identity hlive => ?_
      · show (s.store.observeLifecycle lib s.files mapId mode generation).2.frameId = _
        rw [hpost]
      · change (s.store.observeLifecycle lib s.files mapId mode generation).2.identity = _ at hlive
        rw [hpost] at hlive
        cases hlive
    · refine h.quiet rfl rfl ?_ rfl fun other hlive => ?_
      · show (s.store.observeLifecycle lib s.files mapId mode generation).2.frameId = _
        rw [hpost]
      · change (s.store.observeLifecycle lib s.files mapId mode generation).2.identity = _ at hlive
        rw [hpost] at hlive
        obtain rfl := Option.some.inj hlive
        refine ⟨valid_of_identityOf hid, ?_⟩
        rcases h.readSidecar hlib identity with ⟨-, hother⟩ | ⟨⟨detail, herror⟩, -⟩
        · exact hother
        · rw [hsaved] at herror
          cases herror
  | saveOperatorPose pose stamp capturedAt =>
    rcases saveOperatorPose_cases hlib s.store s.files h.valid pose stamp capturedAt with
      ⟨raised, hfailed, -⟩ | ⟨identity, normalized, saved, status, hlive, hnormalized, hsave⟩
    · have hstep : (poseStore lib).step s (.saveOperatorPose pose stamp capturedAt) =
          (.error raised, s) := by
        simp only [poseStore, hfailed]
      refine h.quiet ?_ rfl ?_ ?_ fun identity hid => ?_
      · simp only [savedBy, Machine.stepAt, hstep]
      · simp only [Machine.stepAt, hstep]
      · simp only [Machine.stepAt, hstep]
      · simp only [Machine.stepAt, hstep] at hid
        exact ⟨h.valid identity hid, h.own identity hid⟩
    · have hstep : (poseStore lib).step s (.saveOperatorPose pose stamp capturedAt) =
          (.ok (.status status),
            ⟨{ s.store with saved := saved, error := "", lastAction := "saved_operator_pose" },
              savedFiles lib s.store s.files identity normalized stamp capturedAt⟩) := by
        simp only [poseStore, hsave]
      rw [Machine.stepAt, hstep]
      refine h.saved hlive ?_ (normalized_of_normalizePose hnormalized) rfl rfl
        (if_pos rfl : _ = some (lib.safeDump (s.store.seedDocument identity normalized capturedAt)))
        fun mapId hmap => savedFiles_other hmap
      simp only [savedBy, hlive, hnormalized]
  | restorePose mapId generation =>
    rcases restorePose_cases lib s.store s.files mapId generation with
      ⟨raised, hpost⟩ | ⟨identity, saved, -, -, hpost⟩
    all_goals
      refine h.quiet rfl rfl ?_ rfl fun identity hid => ?_
      · show (s.store.restorePose lib s.files mapId generation).2.frameId = _
        rw [hpost]
      · change (s.store.restorePose lib s.files mapId generation).2.identity = _ at hid
        rw [hpost] at hid
        exact ⟨h.valid identity hid, h.own identity hid⟩
  | reset mapId generation stamp =>
    rcases reset_cases lib s.store s.files mapId generation stamp with
      ⟨raised, hfailed⟩ | ⟨identity, status, hlive, hreset⟩
    · have hstep : (poseStore lib).step s (.reset mapId generation stamp) = (.error raised, s) := by
        simp only [poseStore, hfailed]
      refine h.quiet rfl ?_ ?_ ?_ fun identity hid => ?_
      · simp only [resetBy, Machine.stepAt, hstep]
      · simp only [Machine.stepAt, hstep]
      · simp only [Machine.stepAt, hstep]
      · simp only [Machine.stepAt, hstep] at hid
        exact ⟨h.valid identity hid, h.own identity hid⟩
    · have hstep : (poseStore lib).step s (.reset mapId generation stamp) =
          (.ok (.status status),
            ⟨{ s.store with
                saved := none
                error := "operator initial pose reset; archived recoverably"
                lastAction := "reset_archived" },
              s.files.replace (.sidecar identity.mapId) (.disabled identity.mapId stamp)⟩) := by
        simp only [poseStore, hreset]
      rw [Machine.stepAt, hstep]
      refine h.reset hlive rfl ?_ rfl rfl (if_pos rfl : _ = none) fun other hother => ?_
      · simp only [resetBy, hlive]
      · refine (if_neg fun hpath => hother (SeedPath.sidecar.inj hpath)).trans ?_
        exact if_neg nofun
  | artifact mapId artifact =>
    exact h.quiet rfl rfl rfl rfl fun identity hid => ⟨h.valid identity hid, h.own identity hid⟩
  | restart => exact h.quiet rfl rfl rfl rfl fun identity hid => by cases hid

/-- The live identity is the one that was observed last. -/
def Live (lib : Library C) (tr : List (StoreStep C)) (s : Deployment C) : Prop :=
  ∀ identity, Observed lib tr identity → identity.mode = "localization" →
    s.store.identity = some identity

/-- No call but an unobstructed lifecycle changes the live identity. -/
lemma Live.step (hlib : lib.Documented) (h : StoreInv lib tr s) (hlive : Live lib tr s)
    (e : StoreEvent) (hclear : Unobstructed lib tr ((poseStore lib).stepAt s e)) :
    Live lib (tr ++ [(poseStore lib).stepAt s e]) ((poseStore lib).step s e).2 := by
  intro identity hobserved hmode
  by_cases hevent : ∃ m n g, e = .observeLifecycle m n g
  · obtain ⟨mapId, mode, generation, rfl⟩ := hevent
    obtain ⟨hid, hverify⟩ := hobserved.last rfl
    have hother := hclear identity hid hmode hverify
    have hread := h.readable hlib mapId mode generation
    rcases h.readSidecar hlib identity with ⟨⟨saved, hsaved⟩, -⟩ | ⟨-, other, hne, hseed⟩
    · rcases observeLifecycle_cases s.store s.files mapId mode generation hread with
        ⟨detail, -, hnot⟩ | ⟨found, saved', hfound, -, -, hpost⟩
      · exact absurd hsaved (hnot identity saved hid hverify)
      · rw [hid] at hfound
        obtain rfl := Except.ok.inj hfound
        show (s.store.observeLifecycle lib s.files mapId mode generation).2.identity = _
        rw [hpost]
    · exact absurd (hother other hne) hseed
  · have hbefore := hobserved.concat fun m n g he => hevent ⟨m, n, g, he⟩
    have hkept : ((poseStore lib).step s e).2.store.identity = s.store.identity := by
      cases e with
      | observeLifecycle m n g => exact absurd ⟨m, n, g, rfl⟩ hevent
      | saveOperatorPose pose stamp capturedAt =>
        show (s.store.saveOperatorPose lib s.files pose stamp capturedAt).2.1.identity = _
        rcases saveOperatorPose_cases hlib s.store s.files h.valid pose stamp capturedAt with
          ⟨raised, hsave, -⟩ | ⟨other, normalized, saved, status, -, -, hsave⟩ <;> rw [hsave]
      | restorePose m g =>
        show (s.store.restorePose lib s.files m g).2.identity = _
        rcases restorePose_cases lib s.store s.files m g with
          ⟨raised, hpost⟩ | ⟨other, saved, -, -, hpost⟩ <;> rw [hpost]
      | reset m g stamp =>
        show (s.store.reset lib s.files m g stamp).2.1.identity = _
        rcases reset_cases lib s.store s.files m g stamp with
          ⟨raised, hpost⟩ | ⟨other, status, -, hpost⟩ <;> rw [hpost]
      | artifact m a => rfl
      | restart => exact absurd rfl hbefore.2
    rw [hkept]
    exact hlive identity hbefore.1 hmode

/-- A save over a seed loses nothing, if the name of the archive is free. -/
lemma kept_of_saved {identity : MapIdentity} {normalized : Pose} {stamp : Timestamp}
    {capturedAt : String}
    (hfree : files.seeds (.sidecar identity.mapId) ≠ none →
      files.seeds (.archive identity.mapId stamp) = none)
    {path : SeedPath} {content : C} (h : files.seeds path = some content) :
    ∃ path', (savedFiles lib store files identity normalized stamp capturedAt).seeds path' =
      some content := by
  have hne : SeedPath.archive identity.mapId stamp ≠ .sidecar identity.mapId := by simp
  by_cases hpath : path = .sidecar identity.mapId
  · subst hpath
    refine ⟨.archive identity.mapId stamp, ?_⟩
    rw [savedFiles, Files.write_seeds, if_neg hne, if_pos (by rw [h]; rfl), Files.copy_seeds,
      if_pos rfl, h]
  · refine ⟨path, ?_⟩
    rw [savedFiles, Files.write_seeds, if_neg hpath]
    split
    · rename_i hsome
      rw [Files.copy_seeds, if_neg, h]
      rintro rfl
      rw [hfree (Option.isSome_iff_ne_none.mp hsome)] at h
      cases h
    · exact h

/-- A reset loses nothing, if the name of the disabled seed is free. -/
lemma kept_of_replaced {source target : SeedPath} (hfree : files.seeds target = none)
    (hne : target ≠ source) {path : SeedPath} {content : C}
    (h : files.seeds path = some content) :
    ∃ path', (files.replace source target).seeds path' = some content := by
  by_cases hpath : path = source
  · subst hpath
    exact ⟨target, by rw [Files.replace_seeds, if_neg hne, if_pos rfl, h]⟩
  · refine ⟨path, ?_⟩
    rw [Files.replace_seeds, if_neg hpath, if_neg, h]
    rintro rfl
    rw [hfree] at h
    cases h

/-- A map library without seeds. -/
def freshDeployment (root frameId : String) (artifacts : String → Artifact) : Deployment C :=
  ⟨{ root := root, frameId := frameId }, { artifacts := artifacts }⟩

lemma storeInv_fresh (root frameId : String) (artifacts : String → Artifact) :
    StoreInv lib [] (freshDeployment root frameId artifacts) where
  sidecar mapId := ⟨none, .nothing rfl, fun _ => rfl⟩
  valid identity hid := by cases hid
  own identity hid := by cases hid

theorem storeInv_run (hlib : lib.Documented) (root frameId : String)
    (artifacts : String → Artifact) (es : List StoreEvent) :
    StoreInv lib ((poseStore lib).trace (freshDeployment root frameId artifacts) es)
      ((poseStore lib).final (freshDeployment root frameId artifacts) es) :=
  (poseStore lib).history_induction (motive := StoreInv lib) (storeInv_fresh root frameId artifacts)
    (fun _ _ e h => h.step hlib e) es

/-- **What is restored is the last seed of the live map generation**, in every run. -/
theorem restored_lastSeed (hlib : lib.Documented) (h : StoreInv lib tr s)
    {mapId generation : PyValue} {saved : Saved}
    (hrestored : ((poseStore lib).step s (.restorePose mapId generation)).1 =
      .ok (.restored saved)) :
    ∃ identity, s.store.identity = some identity ∧
      verifyArtifact lib s.files identity = .ok () ∧
      (saved.mapId = identity.mapId ∧ saved.generation = identity.generation) ∧
      lastSeed lib tr identity.key = some saved.pose := by
  change (s.store.restorePose lib s.files mapId generation).1 = _ at hrestored
  rcases restorePose_cases lib s.store s.files mapId generation with
    ⟨raised, hfailed⟩ | ⟨identity, found, ⟨hlive, hverify⟩, hread, hpost⟩
  · rw [hfailed] at hrestored
    cases hrestored
  · rw [hpost] at hrestored
    cases hrestored
    obtain ⟨seed, hholds, hseed⟩ := h.sidecar identity.mapId
    cases seed with
    | none =>
      rw [readSidecar_nothing hholds] at hread
      cases hread
    | some seed =>
      obtain ⟨own, pose⟩ := seed
      by_cases hown : own = identity.generation
      · subst hown
        obtain ⟨saved', hsaved', hpose, hmap, hgeneration⟩ := readSidecar_own hlib hholds
        rw [hread] at hsaved'
        cases hsaved'
        refine ⟨identity, hlive, hverify, ⟨hmap, hgeneration⟩, (hseed _).trans ?_⟩
        rw [seedFor, if_pos rfl, hpose]
      · rw [readSidecar_other hlib hholds hown] at hread
        cases hread

/-- A valid pose is saved for a live identity, and can then be restored. -/
lemma saves_of_live (hlib : lib.Documented) (h : StoreInv lib tr s) {identity : MapIdentity}
    {pose : Items} (stamp : Timestamp) (capturedAt : String) {normalized : Pose}
    (hlive : s.store.identity = some identity) (hmode : identity.mode = "localization")
    (hverify : verifyArtifact lib s.files identity = .ok ())
    (hpose : normalizePose lib s.store.frameId pose = .ok normalized) :
    (∃ status, ((poseStore lib).step s (.saveOperatorPose pose stamp capturedAt)).1 =
      .ok (.status status)) ∧
    ∀ mapId generation, mapIdOf lib mapId = .ok identity.mapId →
      generationOf generation "generation" = .ok identity.generation →
      ∃ saved, ((poseStore lib).step
        ((poseStore lib).step s (.saveOperatorPose pose stamp capturedAt)).2
          (.restorePose mapId generation)).1 = .ok (.restored saved) ∧ saved.pose = normalized := by
  rcases saveOperatorPose_cases hlib s.store s.files h.valid pose stamp capturedAt with
    ⟨raised, -, hnot⟩ | ⟨other, found, saved, status, hother, hfound, hsave⟩
  · refine absurd hpose (hnot identity normalized ?_)
    exact requireLocalizationIdentity_eq_ok_iff.mpr ⟨⟨hlive, hverify⟩, hmode⟩
  rw [hlive] at hother
  obtain rfl := Option.some.inj hother
  rw [hpose] at hfound
  obtain rfl := Except.ok.inj hfound
  have hstep : (poseStore lib).step s (.saveOperatorPose pose stamp capturedAt) =
      (.ok (.status status),
        ⟨{ s.store with saved := saved, error := "", lastAction := "saved_operator_pose" },
          savedFiles lib s.store s.files identity normalized stamp capturedAt⟩) := by
    simp only [poseStore, hsave]
  rw [hstep]
  refine ⟨⟨status, rfl⟩, fun mapId generation hmap hgeneration => ?_⟩
  have hholds : Holds lib
      { s.store with saved := saved, error := "", lastAction := "saved_operator_pose" }
      (savedFiles lib s.store s.files identity normalized stamp capturedAt) identity.mapId
      (some (identity.generation, normalized)) :=
    .seed identity normalized capturedAt (h.valid identity hlive) rfl
      (normalized_of_normalizePose hpose) (if_pos rfl)
  obtain ⟨restored, hread, hrestored, -⟩ := readSidecar_own hlib hholds
  have hrequire : requireLocalizationIdentity lib
      { s.store with saved := saved, error := "", lastAction := "saved_operator_pose" }
      (savedFiles lib s.store s.files identity normalized stamp capturedAt) = .ok identity := by
    refine requireLocalizationIdentity_eq_ok_iff.mpr ⟨⟨hlive, ?_⟩, hmode⟩
    rw [← hverify]
    unfold verifyArtifact savedFiles
    split <;> rfl
  exact ⟨restored, restorePose_of_saved hrequire hmap hgeneration hread, hrestored⟩

/-- An unobstructed step loses no document. -/
lemma kept_step (hlib : lib.Documented) (h : StoreInv lib tr s) (e : StoreEvent)
    (hclear : Unobstructed lib tr ((poseStore lib).stepAt s e)) {path : SeedPath}
    {content : C} (hpath : s.files.seeds path = some content) :
    ∃ path', ((poseStore lib).step s e).2.files.seeds path' = some content := by
  cases e with
  | observeLifecycle m n g => exact ⟨path, hpath⟩
  | saveOperatorPose pose stamp capturedAt =>
    show ∃ path', (s.store.saveOperatorPose lib s.files pose stamp capturedAt).2.2.seeds path' = _
    rcases saveOperatorPose_cases hlib s.store s.files h.valid pose stamp capturedAt with
      ⟨raised, hsave, -⟩ | ⟨identity, normalized, saved, status, hlive, -, hsave⟩
    · rw [hsave]
      exact ⟨path, hpath⟩
    · rw [hsave]
      exact kept_of_saved (hclear identity hlive) hpath
  | restorePose m g => exact ⟨path, hpath⟩
  | reset m g stamp =>
    show ∃ path', (s.store.reset lib s.files m g stamp).2.2.seeds path' = _
    rcases reset_cases lib s.store s.files m g stamp with
      ⟨raised, hreset⟩ | ⟨identity, status, hlive, hreset⟩
    · rw [hreset]
      exact ⟨path, hpath⟩
    · rw [hreset]
      exact kept_of_replaced (hclear identity hlive) (by simp) hpath
  | artifact m a => exact ⟨path, hpath⟩
  | restart => exact ⟨path, hpath⟩

/-- With a seed of another generation, a lifecycle leaves no identity to save for. -/
theorem refused_of_staleSeed (hlib : lib.Documented) (h : StoreInv lib tr s)
    {mapId mode generation : PyValue} {identity : MapIdentity} {other : ℕ}
    (hid : identityOf lib mapId mode generation = .ok identity)
    (hother : other ≠ identity.generation)
    (hstale : lastSeed lib tr (identity.mapId, other) ≠ none) :
    ((poseStore lib).step s (.observeLifecycle mapId mode generation)).2.store.identity =
      none := by
  have hread := h.readable hlib mapId mode generation
  show (s.store.observeLifecycle lib s.files mapId mode generation).2.identity = none
  rcases observeLifecycle_cases s.store s.files mapId mode generation hread with
    ⟨detail, hpost, -⟩ | ⟨found, saved, hfound, -, hsaved, -⟩
  · rw [hpost]
  · rw [hid] at hfound
    obtain rfl := Except.ok.inj hfound
    rcases h.readSidecar hlib identity with ⟨-, hnone⟩ | ⟨⟨detail, herror⟩, -⟩
    · exact absurd (hnone other hother) hstale
    · rw [hsaved] at herror
      cases herror

end Runs

/-! ## A seed of an older generation -/

/-- A library whose files hold documents, for texts without blanks or capitals, quaternions with
one component and the first two generations. -/
def plainLibrary : Library PyValue where
  strip text := text
  casefold text := text
  text
    | .str text => text
    | _ => ""
  parseFloat _ := none
  parseInt text := if text = "1" then some 1 else if text = "2" then some 2 else none
  norm components := .fin (components.map fun component => component * component).sum
  safeDump document := document
  safeLoad document := .ok document

lemma plainLibrary_documented : plainLibrary.Documented where
  strip _ _ := rfl
  text_str _ := rfl
  load_dump _ _ _ _ := rfl

/-- The artifact of a map. -/
def savedMap (generation : String) : Artifact := ⟨true, true, some generation⟩

def markedPose : Items :=
  [("frame_id", .str "map"), ("position", .dict [("x", .float (.fin (5 / 4)))]),
    ("orientation",
      .dict [("x", .float 0), ("y", .float 0), ("z", .float 0), ("w", .float (.fin 1))]),
    ("covariance", .list (List.replicate 36 (.float 0)))]

def morning : Timestamp := ⟨"20260731T093000.000001Z", by decide, by decide⟩

/-- The first generation of a map is localized in, and a pose is saved for it. -/
def firstSeed : List StoreEvent :=
  [.artifact "lab" (savedMap "1"), .observeLifecycle (.str "lab") (.str "localization") (.int 1),
    .saveOperatorPose markedPose morning "2026-07-31T09:30:00+00:00"]

/-- A new generation of the map comes. -/
def staleSeed : List StoreEvent :=
  firstSeed ++ [.artifact "lab" (savedMap "2"),
    .observeLifecycle (.str "lab") (.str "localization") (.int 2)]

end UnitreeGo2.Dashboard
