import UnitreeGo2.Lib.Outcome
import UnitreeGo2.Dashboard.SeedHistory

/-!
# Lifecycle samples and hostile sidecars

The store validates a sidecar that anyone may have written.  A malformed one is refused with an
`InitialPoseError`, unless a value is reached that `float` does not take, or the hint of a missing
covariance is no mapping: then another error escapes and the identity of the map stays set.
-/

namespace UnitreeGo2.Dashboard

open InitialPoseStore

/-! ## Sidecars -/

/-- The error of the store. -/
def Raised.named (raised : Raised) : Prop := ∃ detail, raised = .initialPoseError detail

section Sidecars

variable {C : Type} (lib : Library C)

/-- The finite number that a value stands for: what `float` reads, unless it is a boolean. -/
def finite? : PyValue → Option ℚ
  | .bool _ => none
  | value =>
    match value.toFloat lib.parseFloat with
    | .ok (.fin x) => some x
    | _ => none

/-- `float` does not take a value. -/
def Unconvertible (value : PyValue) : Prop :=
  ∃ error, value.toFloat lib.parseFloat = .error error

/-- Behind values that are finite numbers, one is reached that `float` does not take. -/
def Refuses (values : List PyValue) : Prop :=
  values.Reaches (fun value => ∃ x, finite? lib value = some x) (Unconvertible lib)

/-- The coordinates of a pose, in the order in which they are read. -/
def coordinates (position orientation : Items) : List PyValue :=
  ["x", "y", "z"].map (fun key => (position.lookup key).getD (.float 0)) ++
    ["x", "y", "z", "w"].map (PyValue.get orientation)

/-- The variances of a hint. -/
def variances (hint : Items) : List PyValue :=
  [(hint.lookup "xy_variance").getD (.float (.fin (1 / 4))),
    (hint.lookup "yaw_variance").getD (.float (.fin (6853891909122467 / 10 ^ 17)))]

/-- The numbers that values stand for. -/
abbrev Stand (values : List PyValue) (numbers : List ℚ) : Prop :=
  List.Forall₂ (fun value x => finite? lib value = some x) values numbers

/-- The coordinates are finite numbers, the last four those of a normalized quaternion. -/
def Posed (position orientation : Items) : Prop :=
  ∃ numbers, Stand lib (coordinates position orientation) numbers ∧
    normRefused (lib.norm (numbers.drop 3)) = false

/-- A document is the sidecar of the map and has a pose. -/
structure Opens (identity : MapIdentity) (document : PyValue) (items pose : Items) : Prop where
  document_eq : document = .dict items
  schema : (PyValue.get items "schema").eqStr SCHEMA = true
  mapId : mapIdOf lib (PyValue.get items "map_id") = .ok identity.mapId
  generation : generationOf (PyValue.get items "map_generation") "map_generation" =
    .ok identity.generation
  pose_eq : PyValue.get items "pose" = .dict pose

/-- The covariance is a list of 36 values, or it is missing and its hint has two variances. -/
def HasCovariance (items pose : Items) : Prop :=
  (∃ values, PyValue.get pose "covariance" = .list values ∧ values.length = 36) ∨
  PyValue.get pose "covariance" = .none ∧ ∃ hint,
    orEmpty (PyValue.get items "covariance_hint") = .dict hint ∧
      ∀ value ∈ variances hint, ∃ x, finite? lib value = some x

/-- The frame is the one of the store, and the pose has a position and an orientation. -/
structure Framed (frameId : String) (items pose position orientation : Items) : Prop where
  frame : lib.text (PyValue.get items "frame_id") = frameId
  position_eq : PyValue.get pose "position" = .dict position
  orientation_eq : PyValue.get pose "orientation" = .dict orientation

/-- The sidecar of a map is fully valid. -/
def SidecarValid (frameId : String) (identity : MapIdentity) (document : PyValue) : Prop :=
  ∃ items pose position orientation, Opens lib identity document items pose ∧
    Framed lib frameId items pose position orientation ∧ HasCovariance lib items pose ∧
    Posed lib position orientation ∧
    ∀ values, PyValue.get pose "covariance" = .list values →
      ∀ value ∈ values, ∃ x, finite? lib value = some x

/-- The hint of a missing covariance is no mapping, or a variance is reached that `float` does not
take. -/
def HintEscapes (items pose : Items) : Prop :=
  PyValue.get pose "covariance" = .none ∧
    ∀ hint, orEmpty (PyValue.get items "covariance_hint") = .dict hint →
      Refuses lib (variances hint)

/-- Reading the sidecar comes to the hint of a missing covariance that is no mapping, or to a value
that `float` does not take. -/
def SidecarEscapes (frameId : String) (identity : MapIdentity) (document : PyValue) : Prop :=
  ∃ items pose, Opens lib identity document items pose ∧
    (HintEscapes lib items pose ∨
      HasCovariance lib items pose ∧
        ∃ position orientation, Framed lib frameId items pose position orientation ∧
        (Refuses lib (coordinates position orientation) ∨
          Posed lib position orientation ∧
            ∃ values, PyValue.get pose "covariance" = .list values ∧ Refuses lib values))

/-! ## Numbers -/

/-- What `_finite` does with what `float` makes of a value. -/
def finiteOf (label : String) : Except PyError ExtRat → Except Raised ℚ
  | .error .typeError => .error .typeError
  | .error .valueError => .error .valueError
  | .error .overflowError => .error .overflowError
  | .ok (.fin x) => .ok x
  | .ok _ => .error (.initialPoseError s!"{label} must be a finite number")

lemma finite_eq {value : PyValue} (h : ∀ b, value ≠ .bool b) (label : String) :
    finite lib value label = finiteOf label (value.toFloat lib.parseFloat) := by
  rw [finite.eq_def]
  split
  · exact absurd rfl (h _)
  · generalize value.toFloat lib.parseFloat = read
    rcases read with (_ | _ | _) | (_ | _ | _) <;> rfl

lemma finite?_eq {value : PyValue} (h : ∀ b, value ≠ .bool b) :
    finite? lib value = match value.toFloat lib.parseFloat with
      | .ok (.fin x) => some x
      | _ => none := by
  rw [finite?.eq_def]
  split
  · exact absurd rfl (h _)
  · rfl

lemma finite_outcome (value : PyValue) (label : String) :
    Except.Outcome Raised.named (finite lib value label) (finite? lib value = some ·)
      (Unconvertible lib value) := by
  by_cases hbool : ∃ b, value = .bool b
  · obtain ⟨b, rfl⟩ := hbool
    have hread : ¬ Unconvertible lib (.bool b) := by
      rintro ⟨error, herror⟩
      cases herror
    refine (Except.Outcome.raise ⟨_, rfl⟩).congr (fun x => ?_) (by simp [hread])
    simp [finite?]
  · rw [not_exists] at hbool
    rw [finite_eq lib hbool, finite?_eq lib hbool, Unconvertible]
    cases value.toFloat lib.parseFloat with
    | error error =>
      have hescapes (raised : Raised) (h : ∀ detail, raised ≠ .initialPoseError detail) :
          Except.Outcome Raised.named (.error raised : Except Raised ℚ)
            (fun x => (none : Option ℚ) = some x)
            (∃ error', Except.error error = (.error error' : Except PyError ExtRat)) :=
        (Except.Outcome.escape (fun ⟨detail, hdetail⟩ => h detail hdetail)).congr (by simp)
          (by simp)
      cases error with
      | typeError => exact hescapes _ (by simp)
      | valueError => exact hescapes _ (by simp)
      | overflowError => exact hescapes _ (by simp)
    | ok x =>
      cases x with
      | fin x => exact (Except.Outcome.ok x).congr (by simp) (by simp)
      | inf s => exact (Except.Outcome.raise ⟨_, rfl⟩).congr (by simp) (by simp)
      | nan => exact (Except.Outcome.raise ⟨_, rfl⟩).congr (by simp) (by simp)

/-- Values are read one after another. -/
def readAll (pairs : List (PyValue × String)) : Except Raised (List ℚ) :=
  pairs.mapM fun pair => finite lib pair.1 pair.2

lemma readAll_outcome (pairs : List (PyValue × String)) :
    Except.Outcome Raised.named (readAll lib pairs) (Stand lib (pairs.map Prod.fst))
      (Refuses lib (pairs.map Prod.fst)) := by
  have hpair (pair : PyValue × String) := finite_outcome lib pair.1 pair.2
  refine (Except.Outcome.mapM hpair).congr (fun numbers => ?_) ?_
  · exact (List.forall₂_map_left_iff (R := fun value x => finite? lib value = some x)).symm
  · rw [Refuses, List.reaches_map_iff]

lemma finiteEntries_eq (index : ℕ) (values : List PyValue) :
    finiteEntries lib index values =
      readAll lib
        ((values.zipIdx index).map fun entry => (entry.1, s!"covariance[{entry.2}]")) := by
  induction values generalizing index with
  | nil => rfl
  | cons value values ih =>
    rw [finiteEntries, ih, readAll, readAll, List.zipIdx_cons, List.map_cons, List.mapM_cons]

lemma finiteEntries_outcome (index : ℕ) (values : List PyValue) :
    Except.Outcome Raised.named (finiteEntries lib index values) (Stand lib values)
      (Refuses lib values) := by
  have h := readAll_outcome lib
    ((values.zipIdx index).map fun entry => (entry.1, s!"covariance[{entry.2}]"))
  rwa [← finiteEntries_eq, List.map_map, show Prod.fst ∘ (fun entry : PyValue × ℕ =>
    (entry.1, s!"covariance[{entry.2}]")) = Prod.fst from rfl, List.zipIdx_map_fst] at h

/-! ## Poses -/

/-- The pose of the numbers that have been read. -/
def poseOf (frameId : String) (numbers covariance : List ℚ) : Pose where
  frameId := frameId
  position := (numbers.getD 0 0, numbers.getD 1 0, numbers.getD 2 0)
  orientation := (numbers.getD 3 0, numbers.getD 4 0, numbers.getD 5 0, numbers.getD 6 0)
  covariance := covariance

/-- What `normalize_pose` does with parts of the right shape. -/
lemma normalizePose_eq {frameId : String} {value position orientation : Items}
    {covariance : List PyValue}
    (hframe : lib.text ((value.lookup "frame_id").getD (.str "")) = frameId)
    (hposition : PyValue.get value "position" = .dict position)
    (horientation : PyValue.get value "orientation" = .dict orientation)
    (hcovariance : PyValue.get value "covariance" = .list covariance)
    (hlength : covariance.length = 36) :
    normalizePose lib frameId value =
      readAll lib ((coordinates position orientation).zip ["position.x", "position.y",
        "position.z", "orientation.x", "orientation.y", "orientation.z", "orientation.w"]) >>=
      fun numbers =>
        if normRefused (lib.norm (numbers.drop 3)) = true then
          .error (.initialPoseError "initial pose quaternion must be normalized")
        else finiteEntries lib 0 covariance >>= fun entries =>
          .ok (poseOf frameId numbers entries) := by
  rw [normalizePose, if_neg (not_not.mpr hframe), hposition, horientation, hcovariance]
  dsimp only
  rw [if_neg (not_not.mpr hlength)]
  simp only [coordinates, readAll, List.map_cons, List.map_nil, List.cons_append, List.nil_append,
    List.zip_cons_cons, List.zip_nil_right, List.mapM_cons, List.mapM_nil, bind_assoc, pure_bind]
  rfl

/-- Parts that do not have the right shape are refused. -/
lemma normalizePose_shapeless (frameId : String) (value : Items)
    (h : ¬ (lib.text ((value.lookup "frame_id").getD (.str "")) = frameId ∧
      ∃ position orientation covariance, PyValue.get value "position" = .dict position ∧
        PyValue.get value "orientation" = .dict orientation ∧
        PyValue.get value "covariance" = .list covariance ∧ covariance.length = 36)) :
    ∃ raised, normalizePose lib frameId value = .error raised ∧ raised.named := by
  rw [normalizePose]
  split
  · exact ⟨_, rfl, _, rfl⟩
  rename_i hframe
  split
  · rename_i position orientation hposition horientation
    split
    · rename_i covariance hcovariance
      split
      · exact ⟨_, rfl, _, rfl⟩
      · rename_i hlength
        exact absurd ⟨not_not.mp hframe, position, orientation, covariance, hposition,
          horientation, hcovariance, not_not.mp hlength⟩ h
    · exact ⟨_, rfl, _, rfl⟩
  · exact ⟨_, rfl, _, rfl⟩

/-- The labels of the coordinates. -/
lemma zip_coordinates (position orientation : Items) :
    ((coordinates position orientation).zip ["position.x", "position.y", "position.z",
      "orientation.x", "orientation.y", "orientation.z", "orientation.w"]).map Prod.fst =
      coordinates position orientation := rfl

/-- A pose of the right shape is refused, unless its coordinates and its covariance are numbers. -/
lemma normalizePose_outcome {frameId : String} (value : Items) {position orientation : Items}
    {covariance : List PyValue}
    (hframe : lib.text ((value.lookup "frame_id").getD (.str "")) = frameId)
    (hposition : PyValue.get value "position" = .dict position)
    (horientation : PyValue.get value "orientation" = .dict orientation)
    (hcovariance : PyValue.get value "covariance" = .list covariance)
    (hlength : covariance.length = 36) :
    Except.Outcome Raised.named (normalizePose lib frameId value)
      (fun pose => ∃ numbers, Stand lib (coordinates position orientation) numbers ∧
        normRefused (lib.norm (numbers.drop 3)) = false ∧
        ∃ entries, Stand lib covariance entries ∧ poseOf frameId numbers entries = pose)
      (Refuses lib (coordinates position orientation) ∨
        Posed lib position orientation ∧ Refuses lib covariance) := by
  rw [normalizePose_eq lib hframe hposition horientation hcovariance hlength]
  have hread := readAll_outcome lib ((coordinates position orientation).zip ["position.x",
    "position.y", "position.z", "orientation.x", "orientation.y", "orientation.z",
    "orientation.w"])
  rw [zip_coordinates] at hread
  refine (hread.bind fun numbers _ => Except.Outcome.check ⟨_, rfl⟩ rfl fun _ =>
    (finiteEntries_outcome lib 0 covariance).bind fun entries _ =>
      Except.Outcome.ok (poseOf frameId numbers entries)).congr (fun pose => ?_) ?_
  · simp only [Bool.not_eq_true]
  · simp only [Bool.not_eq_true, and_false, exists_false, or_false, Posed]
    refine or_congr_right ⟨?_, ?_⟩
    · rintro ⟨numbers, hnumbers, hnorm, hrefuses⟩
      exact ⟨⟨numbers, hnumbers, hnorm⟩, hrefuses⟩
    · rintro ⟨⟨numbers, hnumbers, hnorm⟩, hrefuses⟩
      exact ⟨numbers, hnumbers, hnorm, hrefuses⟩

/-! ## Documents -/

lemma exists_stand_iff {values : List PyValue} :
    (∃ numbers, Stand lib values numbers) ↔ ∀ value ∈ values, ∃ x, finite? lib value = some x := by
  induction values with
  | nil => exact ⟨fun _ => by simp, fun _ => ⟨[], .nil⟩⟩
  | cons value values ih =>
    rw [List.forall_mem_cons, ← ih]
    constructor
    · rintro ⟨numbers, h⟩
      obtain ⟨x, rest, hx, hrest, -⟩ := List.forall₂_cons_left_iff.mp h
      exact ⟨⟨x, hx⟩, rest, hrest⟩
    · rintro ⟨⟨x, hx⟩, rest, hrest⟩
      exact ⟨x :: rest, .cons hx hrest⟩

/-- Numbers are not refused. -/
lemma not_refuses {values : List PyValue}
    (h : ∀ value ∈ values, ∃ x, finite? lib value = some x) : ¬ Refuses lib values := by
  refine List.not_reaches_of_forall fun value hvalue hraises => ?_
  obtain ⟨x, hx⟩ := h value hvalue
  obtain ⟨raised, hraised, -⟩ := (finite_outcome lib value "").escapes_iff.mpr hraises
  cases hraised.symm.trans (((finite_outcome lib value "").returns_iff x).mpr hx)

/-- The value that `_read_sidecar` normalizes. -/
def poseItems (items pose : Items) (covariance : PyValue) : Items :=
  [("frame_id", PyValue.get items "frame_id"), ("position", PyValue.get pose "position"),
    ("orientation", PyValue.get pose "orientation"), ("covariance", covariance)]

variable {items pose : Items} {values : List PyValue}

lemma Framed.unique {frameId : String} {position orientation position' orientation' : Items}
    (h : Framed lib frameId items pose position orientation)
    (h' : Framed lib frameId items pose position' orientation') :
    position' = position ∧ orientation' = orientation :=
  ⟨PyValue.dict.inj (h'.position_eq.symm.trans h.position_eq),
    PyValue.dict.inj (h'.orientation_eq.symm.trans h.orientation_eq)⟩

/-- The pose of a sidecar, with a covariance of 36 values. -/
lemma poseItems_outcome (items pose : Items) (frameId : String) (hlength : values.length = 36) :
    Except.Outcome Raised.named
      (normalizePose lib frameId (poseItems items pose (.list values)) >>= fun _ => .ok ())
      (fun _ => ∃ position orientation, Framed lib frameId items pose position orientation ∧
        Posed lib position orientation ∧ ∀ value ∈ values, ∃ x, finite? lib value = some x)
      (∃ position orientation, Framed lib frameId items pose position orientation ∧
        (Refuses lib (coordinates position orientation) ∨
          Posed lib position orientation ∧ Refuses lib values)) := by
  by_cases hframed : ∃ position orientation,
      Framed lib frameId items pose position orientation
  · obtain ⟨position, orientation, h⟩ := hframed
    refine ((normalizePose_outcome lib (poseItems items pose (.list values)) h.frame
      h.position_eq h.orientation_eq rfl hlength).bind fun _ _ => Except.Outcome.ok ()).congr
        (fun _ => ?_) ?_
    · constructor
      · rintro ⟨_, ⟨numbers, hnumbers, hnorm, entries, hentries, -⟩, -⟩
        exact ⟨position, orientation, h, ⟨numbers, hnumbers, hnorm⟩,
          (exists_stand_iff lib).mp ⟨entries, hentries⟩⟩
      · rintro ⟨position', orientation', h', ⟨numbers, hnumbers, hnorm⟩, hvalues⟩
        obtain ⟨rfl, rfl⟩ := h.unique lib h'
        obtain ⟨entries, hentries⟩ := (exists_stand_iff lib).mpr hvalues
        exact ⟨_, ⟨numbers, hnumbers, hnorm, entries, hentries, rfl⟩, rfl⟩
    · constructor
      · rintro (hrefuses | ⟨_, _, hnever⟩)
        · exact ⟨position, orientation, h, hrefuses⟩
        · cases hnever
      · rintro ⟨position', orientation', h', hrefuses⟩
        obtain ⟨rfl, rfl⟩ := h.unique lib h'
        exact .inl hrefuses
  · obtain ⟨raised, hraised, hnamed⟩ := normalizePose_shapeless lib frameId
      (poseItems items pose (.list values))
      (fun ⟨hframe, position, orientation, _, hposition, horientation, _, _⟩ =>
        hframed ⟨position, orientation, hframe, hposition, horientation⟩)
    rw [hraised]
    refine (Except.Outcome.raise hnamed).congr (fun _ => ?_) ?_
    · exact ⟨False.elim, fun ⟨position, orientation, h, _⟩ => hframed ⟨position, orientation, h⟩⟩
    · exact ⟨False.elim, fun ⟨position, orientation, h, _⟩ => hframed ⟨position, orientation, h⟩⟩

/-- The covariance that `_read_sidecar` normalizes. -/
def covarianceOf (items pose : Items) : Except Raised PyValue :=
  match PyValue.get pose "covariance" with
  | .none => hintedCovariance lib (orEmpty (PyValue.get items "covariance_hint"))
  | covariance => .ok covariance

/-- The covariance of two variances. -/
def hintedEntries (numbers : List ℚ) : List PyValue :=
  (List.range 36).map fun index =>
    if index = 0 ∨ index = 7 then .float (.fin (numbers.getD 0 0))
    else if index = 35 then .float (.fin (numbers.getD 1 0)) else .float 0

lemma hintedEntries_finite (numbers : List ℚ) :
    ∀ value ∈ hintedEntries numbers, ∃ x, finite? lib value = some x := by
  rw [hintedEntries, List.forall_mem_map]
  intro index _
  split_ifs <;> exact ⟨_, rfl⟩

lemma hintedCovariance_outcome (hint : Items) :
    Except.Outcome Raised.named (hintedCovariance lib (.dict hint))
      (fun covariance => ∃ numbers, Stand lib (variances hint) numbers ∧
        .list (hintedEntries numbers) = covariance)
      (Refuses lib (variances hint)) := by
  have heq : hintedCovariance lib (.dict hint) =
      readAll lib ((variances hint).zip ["xy_variance", "yaw_variance"]) >>= fun numbers =>
        .ok (.list (hintedEntries numbers)) := by
    simp only [hintedCovariance, variances, readAll, List.zip_cons_cons, List.zip_nil_right,
      List.mapM_cons, List.mapM_nil, bind_assoc, pure_bind]
    rfl
  have hread := readAll_outcome lib ((variances hint).zip ["xy_variance", "yaw_variance"])
  rw [heq]
  refine (hread.bind fun numbers _ => Except.Outcome.ok
    (PyValue.list (hintedEntries numbers))).congr (fun _ => Iff.rfl) ⟨?_, .inl⟩
  rintro (hrefuses | ⟨_, _, hnever⟩)
  · exact hrefuses
  · cases hnever

/-- The reading of a sidecar that opens. -/
lemma readDocument_opens (store : InitialPoseStore) {identity : MapIdentity} {document : PyValue}
    (h : Opens lib identity document items pose) :
    ∃ saved : Pose → Saved, readDocument lib store identity document =
      covarianceOf lib items pose >>= fun covariance =>
        normalizePose lib store.frameId (poseItems items pose covariance) >>= fun normalized =>
          .ok (saved normalized) := by
  obtain ⟨rfl, hschema, hmap, hgeneration, hpose⟩ := h
  refine ⟨fun normalized => ⟨normalized, identity.mapId, identity.generation,
    orEmpty (PyValue.get items "source"),
    s!"{store.root}/{(SeedPath.sidecar identity.mapId).name}"⟩, ?_⟩
  rw [readDocument, if_neg (not_not.mpr hschema), hmap]
  change (if identity.mapId ≠ identity.mapId then _ else _) = _
  rw [if_neg (not_not.mpr rfl), hgeneration]
  change (if identity.generation ≠ identity.generation then _ else _) = _
  rw [if_neg (not_not.mpr rfl), hpose, covarianceOf]
  dsimp only
  cases PyValue.get pose "covariance" <;> rfl

lemma mapIdOf_named {value : PyValue} {raised : Raised}
    (h : mapIdOf lib value = .error raised) : raised.named := by
  rw [mapIdOf] at h
  split at h
  · cases h
    exact ⟨_, rfl⟩
  · cases h

lemma generationOf_named {value : PyValue} {label : String} {raised : Raised}
    (h : generationOf value label = .error raised) : raised.named := by
  rw [generationOf] at h
  split at h
  · cases h
    exact ⟨_, rfl⟩
  · split at h
    · cases h
      exact ⟨_, rfl⟩
    · cases h

/-- A document that is not the sidecar of the map is refused. -/
lemma readDocument_closed (store : InitialPoseStore) {identity : MapIdentity}
    {document : PyValue} (h : ∀ items pose, ¬ Opens lib identity document items pose) :
    ∃ raised, readDocument lib store identity document = .error raised ∧ raised.named := by
  cases document with
  | dict items =>
    rw [readDocument]
    by_cases hschema : (PyValue.get items "schema").eqStr SCHEMA = true
    · rw [if_neg (not_not.mpr hschema)]
      cases hmap : mapIdOf lib (PyValue.get items "map_id") with
      | error raised => exact ⟨raised, rfl, mapIdOf_named lib hmap⟩
      | ok mapId =>
        change ∃ raised, (if mapId ≠ identity.mapId then _ else _) = _ ∧ _
        by_cases hsame : mapId = identity.mapId
        · subst hsame
          rw [if_neg (not_not.mpr rfl)]
          cases hgeneration : generationOf (PyValue.get items "map_generation")
              "map_generation" with
          | error raised => exact ⟨raised, rfl, generationOf_named hgeneration⟩
          | ok generation =>
            change ∃ raised, (if generation ≠ identity.generation then _ else _) = _ ∧ _
            by_cases hsame : generation = identity.generation
            · subst hsame
              rw [if_neg (not_not.mpr rfl)]
              cases hpose : PyValue.get items "pose" with
              | dict pose => exact absurd ⟨rfl, hschema, hmap, hgeneration, hpose⟩ (h items pose)
              | _ => exact ⟨_, rfl, _, rfl⟩
            · rw [if_pos hsame]
              exact ⟨_, rfl, _, rfl⟩
        · rw [if_pos hsame]
          exact ⟨_, rfl, _, rfl⟩
    · rw [if_pos hschema]
      exact ⟨_, rfl, _, rfl⟩
  | _ => exact ⟨_, rfl, _, rfl⟩

/-- What the covariance of a sidecar comes to: 36 values, a refusal, or an escape. -/
lemma covarianceOf_cases (frameId : String) (items pose : Items) :
    (∃ values, values.length = 36 ∧ covarianceOf lib items pose = .ok (.list values) ∧
      HasCovariance lib items pose ∧ ¬ HintEscapes lib items pose ∧
      (PyValue.get pose "covariance" = .list values ∨
        PyValue.get pose "covariance" = .none ∧
          ∀ value ∈ values, ∃ x, finite? lib value = some x)) ∨
    ¬ HasCovariance lib items pose ∧ ¬ HintEscapes lib items pose ∧
      (∃ raised, (covarianceOf lib items pose >>= fun covariance =>
        normalizePose lib frameId (poseItems items pose covariance)) = .error raised ∧
          raised.named) ∨
    ¬ HasCovariance lib items pose ∧ HintEscapes lib items pose ∧
      ∃ raised, covarianceOf lib items pose = .error raised ∧ ¬ raised.named := by
  -- a covariance that is no list of 36 values, and not missing either
  have hshapeless {covariance : PyValue} (hcovariance : PyValue.get pose "covariance" = covariance)
      (hsome : covariance ≠ .none)
      (hlist : ∀ values, covariance = .list values → values.length ≠ 36) :
      ¬ HasCovariance lib items pose ∧ ¬ HintEscapes lib items pose ∧
      (∃ raised, (Except.ok covariance >>= fun covariance =>
        normalizePose lib frameId (poseItems items pose covariance)) = .error raised ∧
          raised.named) := by
    refine ⟨?_, fun h => hsome (hcovariance.symm.trans h.1), ?_⟩
    · rintro (⟨values, hvalues, hlength⟩ | ⟨hnone, -⟩)
      · exact hlist values (hcovariance.symm.trans hvalues) hlength
      · exact hsome (hcovariance.symm.trans hnone)
    · refine normalizePose_shapeless lib _ _ ?_
      rintro ⟨-, -, -, values, -, -, hvalues, hlength⟩
      exact hlist values hvalues hlength
  rw [covarianceOf]
  cases hcovariance : PyValue.get pose "covariance" with
  | none =>
    cases hhint : orEmpty (PyValue.get items "covariance_hint") with
    | dict hint =>
      have houtcome := hintedCovariance_outcome lib hint
      by_cases hvariances : ∀ value ∈ variances hint, ∃ x, finite? lib value = some x
      · obtain ⟨numbers, hnumbers⟩ := (exists_stand_iff lib).mpr hvariances
        refine .inl ⟨hintedEntries numbers, by simp [hintedEntries],
          (houtcome.returns_iff _).mpr ⟨numbers, hnumbers, rfl⟩,
          .inr ⟨hcovariance, hint, hhint, hvariances⟩, fun h => ?_,
          .inr ⟨rfl, hintedEntries_finite lib numbers⟩⟩
        exact not_refuses lib hvariances (h.2 hint hhint)
      · have hnone : ¬ HasCovariance lib items pose := by
          rintro (⟨values, hvalues, -⟩ | ⟨-, hint', hhint', hvariances'⟩)
          · cases hcovariance.symm.trans hvalues
          · obtain rfl := PyValue.dict.inj (hhint.symm.trans hhint')
            exact hvariances hvariances'
        by_cases hrefuses : Refuses lib (variances hint)
        · refine .inr (.inr ⟨hnone, ⟨hcovariance, fun hint' hhint' => ?_⟩,
            houtcome.escapes_iff.mpr hrefuses⟩)
          obtain rfl := PyValue.dict.inj (hhint.symm.trans hhint')
          exact hrefuses
        · refine .inr (.inl ⟨hnone, fun h => hrefuses (h.2 hint hhint), ?_⟩)
          obtain ⟨raised, hraised, hnamed⟩ := houtcome.raises
            (fun _ ⟨numbers, hnumbers, _⟩ =>
              hvariances ((exists_stand_iff lib).mp ⟨numbers, hnumbers⟩)) hrefuses
          exact ⟨raised, by rw [hraised]; rfl, hnamed⟩
    | _ =>
      refine .inr (.inr ⟨?_, ⟨hcovariance, fun hint hhint' => ?_⟩, .attributeError, rfl, ?_⟩)
      · rintro (⟨values, hvalues, -⟩ | ⟨-, hint, hhint', -⟩)
        · cases hcovariance.symm.trans hvalues
        · cases hhint.symm.trans hhint'
      · cases hhint.symm.trans hhint'
      · rintro ⟨detail, hdetail⟩
        cases hdetail
  | list values =>
    by_cases hlength : values.length = 36
    · refine .inl ⟨values, hlength, rfl, .inl ⟨values, hcovariance, hlength⟩, fun h => ?_,
        .inl rfl⟩
      cases hcovariance.symm.trans h.1
    · refine .inr (.inl (hshapeless hcovariance (by simp) fun values' hvalues' => ?_))
      obtain rfl := PyValue.list.inj hvalues'
      exact hlength
  | _ => exact .inr (.inl (hshapeless hcovariance (by simp) (by simp)))

lemma Opens.unique {identity : MapIdentity} {document : PyValue} {items' pose' : Items}
    (h : Opens lib identity document items pose)
    (h' : Opens lib identity document items' pose') : items' = items ∧ pose' = pose := by
  obtain rfl := PyValue.dict.inj (h'.document_eq.symm.trans h.document_eq)
  exact ⟨rfl, PyValue.dict.inj (h'.pose_eq.symm.trans h.pose_eq)⟩

/-- The reading of a document returns exactly if the sidecar is fully valid, and another error than
that of the store escapes exactly if a hint or a value is reached that is not taken. -/
lemma readDocument_cases (store : InitialPoseStore) (identity : MapIdentity)
    (document : PyValue) :
    ((∃ saved, readDocument lib store identity document = .ok saved) ↔
      SidecarValid lib store.frameId identity document) ∧
    ((∃ raised, readDocument lib store identity document = .error raised ∧ ¬ raised.named) ↔
      SidecarEscapes lib store.frameId identity document) := by
  by_cases hopens : ∃ items pose, Opens lib identity document items pose
  · obtain ⟨items, pose, h⟩ := hopens
    have hvalid : SidecarValid lib store.frameId identity document ↔
        HasCovariance lib items pose ∧ ∃ position orientation,
          Framed lib store.frameId items pose position orientation ∧
          Posed lib position orientation ∧
          ∀ values, PyValue.get pose "covariance" = .list values →
            ∀ value ∈ values, ∃ x, finite? lib value = some x := by
      constructor
      · rintro ⟨_, _, position, orientation, h', hframed, hcovariance, hrest⟩
        obtain ⟨rfl, rfl⟩ := h.unique lib h'
        exact ⟨hcovariance, position, orientation, hframed, hrest⟩
      · rintro ⟨hcovariance, position, orientation, hframed, hrest⟩
        exact ⟨items, pose, position, orientation, h, hframed, hcovariance, hrest⟩
    have hescapes : SidecarEscapes lib store.frameId identity document ↔
        HintEscapes lib items pose ∨ HasCovariance lib items pose ∧ ∃ position orientation,
          Framed lib store.frameId items pose position orientation ∧
          (Refuses lib (coordinates position orientation) ∨ Posed lib position orientation ∧
            ∃ values, PyValue.get pose "covariance" = .list values ∧ Refuses lib values) := by
      constructor
      · rintro ⟨_, _, h', hrest⟩
        obtain ⟨rfl, rfl⟩ := h.unique lib h'
        exact hrest
      · exact fun hrest => ⟨items, pose, h, hrest⟩
    obtain ⟨saved, hread⟩ := readDocument_opens lib store h
    rw [hvalid, hescapes, hread]
    rcases covarianceOf_cases lib store.frameId items pose with
      ⟨values, hlength, hok, hcovariance, hhint, hvalues⟩ |
      ⟨hnone, hhint, raised, hraised, hnamed⟩ | ⟨hnone, hhint, raised, hraised, hnamed⟩
    · have houtcome := poseItems_outcome lib items pose store.frameId hlength
      have hpose : (∀ values', PyValue.get pose "covariance" = .list values' →
          ∀ value ∈ values', ∃ x, finite? lib value = some x) ↔
          ∀ value ∈ values, ∃ x, finite? lib value = some x := by
        rcases hvalues with hlist | ⟨hmissing, hfinite⟩
        · refine ⟨fun hall => hall values hlist, fun hfinite values' hvalues' => ?_⟩
          obtain rfl := PyValue.list.inj (hlist.symm.trans hvalues')
          exact hfinite
        · exact ⟨fun _ => hfinite, fun _ _ hvalues' => (by cases hmissing.symm.trans hvalues')⟩
      have hrefuses : (∃ values', PyValue.get pose "covariance" = .list values' ∧
          Refuses lib values') ↔ Refuses lib values := by
        rcases hvalues with hlist | ⟨hmissing, hfinite⟩
        · refine ⟨fun ⟨values', hvalues', hreaches⟩ => ?_,
            fun hreaches => ⟨values, hlist, hreaches⟩⟩
          obtain rfl := PyValue.list.inj (hlist.symm.trans hvalues')
          exact hreaches
        · refine ⟨fun ⟨_, hvalues', _⟩ => (by cases hmissing.symm.trans hvalues'),
            fun hreaches => ?_⟩
          exact absurd hreaches (not_refuses lib hfinite)
      simp only [hpose, hrefuses, hcovariance, hhint, true_and, false_or]
      rw [hok, ← houtcome.returns_iff (), ← houtcome.escapes_iff]
      change ((∃ saved', normalizePose lib store.frameId (poseItems items pose (.list values)) >>=
        (fun normalized => .ok (saved normalized)) = .ok saved') ↔ _) ∧
        ((∃ raised, normalizePose lib store.frameId (poseItems items pose (.list values)) >>=
          (fun normalized => .ok (saved normalized)) = .error raised ∧ _) ↔ _)
      cases normalizePose lib store.frameId (poseItems items pose (.list values)) with
      | ok normalized =>
        refine ⟨⟨fun _ => rfl, fun _ => ⟨_, rfl⟩⟩, ?_, ?_⟩
        · rintro ⟨raised, hraised, -⟩
          cases hraised
        · rintro ⟨raised, hraised, -⟩
          cases hraised
      | error raised =>
        refine ⟨⟨?_, fun hnever => (by cases hnever)⟩, ?_, ?_⟩
        · rintro ⟨saved', hsaved'⟩
          cases hsaved'
        · rintro ⟨raised', hraised', hescapes'⟩
          cases hraised'
          exact ⟨_, rfl, hescapes'⟩
        · rintro ⟨raised', hraised', hescapes'⟩
          cases hraised'
          exact ⟨_, rfl, hescapes'⟩
    · simp only [hnone, hhint, false_and, or_false, iff_false]
      rw [← bind_assoc, hraised]
      refine ⟨fun ⟨saved', hsaved'⟩ => (by cases hsaved'), fun ⟨raised', hraised', hescapes'⟩ => ?_⟩
      cases hraised'
      exact hescapes' hnamed
    · simp only [hnone, hhint, false_and, or_false, iff_false, iff_true]
      rw [hraised]
      exact ⟨fun ⟨saved', hsaved'⟩ => (by cases hsaved'), raised, rfl, hnamed⟩
  · obtain ⟨raised, hraised, hnamed⟩ := readDocument_closed lib store
      (fun items pose h => hopens ⟨items, pose, h⟩)
    rw [hraised]
    refine ⟨⟨fun ⟨saved, hsaved⟩ => (by cases hsaved), ?_⟩, ?_, ?_⟩
    · rintro ⟨items, pose, _, _, h, -⟩
      exact absurd ⟨items, pose, h⟩ hopens
    · rintro ⟨raised', hraised', hescapes⟩
      cases hraised'
      exact absurd hnamed hescapes
    · rintro ⟨items, pose, h, -⟩
      exact absurd ⟨items, pose, h⟩ hopens

end Sidecars

/-! ## Lifecycle samples -/

section Lifecycle

variable {C : Type} (lib : Library C)

/-- The map of an identity has been saved, in its generation. -/
structure ArtifactValid (files : Files C) (identity : MapIdentity) : Prop where
  isDir : (files.artifacts identity.mapId).isDir = true
  hasDatabase : (files.artifacts identity.mapId).hasDatabase = true
  generation : (files.artifacts identity.mapId).generation.bind lib.parseInt =
    some (identity.generation : ℤ)

/-- There is no sidecar, or a fully valid one. -/
def SidecarAccepted (frameId : String) (files : Files C) (identity : MapIdentity) : Prop :=
  files.seeds (.sidecar identity.mapId) = none ∨ ∃ content document,
    files.seeds (.sidecar identity.mapId) = some content ∧ lib.safeLoad content = .ok document ∧
      SidecarValid lib frameId identity document

/-- A call has raised the error of the store and changed nothing. -/
def Refused (store : InitialPoseStore) (files : Files C)
    (result : Except Raised Answer × InitialPoseStore × Files C) : Prop :=
  (∃ detail, result.1 = .error (.initialPoseError detail)) ∧ result.2 = (store, files)

/-- Every call that needs an identity is refused. -/
structure Inert (store : InitialPoseStore) : Prop where
  save : ∀ files pose stamp capturedAt,
    Refused store files (store.saveOperatorPose lib files pose stamp capturedAt)
  restore : ∀ files mapId generation, Refused store files
    ((store.restorePose lib files mapId generation).1,
      (store.restorePose lib files mapId generation).2, files)
  reset : ∀ files mapId generation stamp,
    Refused store files (store.reset lib files mapId generation stamp)

/-- A lifecycle sample fails closed: it returns, an identity is set exactly if it and its files are
valid, and without an identity every call is refused. -/
structure FailsClosed (store : InitialPoseStore) (files : Files C)
    (mapId mode generation : PyValue) : Prop where
  returns : ∃ status, (store.observeLifecycle lib files mapId mode generation).1 =
    .ok (.status status)
  identity_iff : ∀ identity,
    (store.observeLifecycle lib files mapId mode generation).2.identity = some identity ↔
      identityOf lib mapId mode generation = .ok identity ∧ ArtifactValid lib files identity ∧
        SidecarAccepted lib store.frameId files identity
  inert : (store.observeLifecycle lib files mapId mode generation).2.identity = none →
    Inert lib (store.observeLifecycle lib files mapId mode generation).2

/-- The identity and the artifact are valid, and reading the sidecar comes to the hint of a missing
covariance that is no mapping, or to a value that `float` does not take. -/
def SampleEscapes (store : InitialPoseStore) (files : Files C)
    (mapId mode generation : PyValue) : Prop :=
  ∃ identity content document, identityOf lib mapId mode generation = .ok identity ∧
    ArtifactValid lib files identity ∧ files.seeds (.sidecar identity.mapId) = some content ∧
      lib.safeLoad content = .ok document ∧ SidecarEscapes lib store.frameId identity document

variable {lib} {store : InitialPoseStore} {files : Files C}

lemma verifyArtifact_eq_ok_iff {identity : MapIdentity} :
    verifyArtifact lib files identity = .ok () ↔ ArtifactValid lib files identity := by
  rw [verifyArtifact]
  split_ifs with hartifact
  · obtain ⟨hdir, hdatabase⟩ := hartifact
    cases hgeneration : (files.artifacts identity.mapId).generation.bind lib.parseInt with
    | none =>
      refine ⟨fun h => (by cases h), fun h => ?_⟩
      cases hgeneration.symm.trans h.generation
    | some diskGeneration =>
      dsimp only
      split_ifs with hdisk
      · refine ⟨fun h => (by cases h), fun h => absurd ?_ hdisk⟩
        exact Option.some.inj (hgeneration.symm.trans h.generation)
      · exact ⟨fun _ => ⟨hdir, hdatabase, hgeneration.trans (congrArg _ (not_not.mp hdisk))⟩,
          fun _ => rfl⟩
  · exact ⟨fun h => (by cases h), fun h => absurd ⟨h.isDir, h.hasDatabase⟩ hartifact⟩

/-- Without an identity, every call is refused. -/
lemma inert_of_none (h : store.identity = none) : Inert lib store := by
  have hidentity (files : Files C) : ∃ detail,
      requireIdentity lib store files = .error (.initialPoseError detail) := by
    rw [requireIdentity, h]
    exact ⟨_, rfl⟩
  have hlocalization (files : Files C) : ∃ detail,
      requireLocalizationIdentity lib store files = .error (.initialPoseError detail) := by
    obtain ⟨detail, hdetail⟩ := hidentity files
    exact ⟨detail, by rw [requireLocalizationIdentity, hdetail]; rfl⟩
  constructor
  · intro files pose stamp capturedAt
    obtain ⟨detail, hdetail⟩ := hlocalization files
    rw [saveOperatorPose, hdetail]
    exact ⟨⟨detail, rfl⟩, rfl⟩
  · intro files mapId generation
    obtain ⟨detail, hdetail⟩ := hlocalization files
    rw [restorePose, hdetail]
    exact ⟨⟨detail, rfl⟩, rfl⟩
  · intro files mapId generation stamp
    obtain ⟨detail, hdetail⟩ := hidentity files
    rw [reset, hdetail]
    exact ⟨⟨detail, rfl⟩, rfl⟩

lemma readSidecar_cases (store : InitialPoseStore) (files : Files C) (identity : MapIdentity) :
    ((∃ saved, readSidecar lib store files identity = .ok saved) ↔
      SidecarAccepted lib store.frameId files identity) ∧
    ((∃ raised, readSidecar lib store files identity = .error raised ∧ ¬ raised.named) ↔
      ∃ content document, files.seeds (.sidecar identity.mapId) = some content ∧
        lib.safeLoad content = .ok document ∧
          SidecarEscapes lib store.frameId identity document) := by
  rw [readSidecar, SidecarAccepted]
  cases hseed : files.seeds (.sidecar identity.mapId) with
  | none => simp
  | some content =>
    cases hload : lib.safeLoad content with
    | error detail =>
      dsimp only
      rw [hload]
      simp [Raised.named, hload]
    | ok document =>
      dsimp only
      rw [hload]
      obtain ⟨hvalid, hescapes⟩ := readDocument_cases lib store identity document
      simp only [reduceCtorEq, Option.some.injEq, exists_and_left, exists_eq_left', hload,
        Except.ok.injEq, false_or, ← hvalid, ← hescapes]
      cases readDocument lib store identity document with
      | ok saved =>
        exact ⟨⟨fun _ => ⟨saved, rfl⟩, fun _ => ⟨some saved, rfl⟩⟩, by simp [Except.map]⟩
      | error raised =>
        exact ⟨⟨fun ⟨_, h⟩ => (by cases h), fun ⟨_, h⟩ => (by cases h)⟩, by simp [Except.map]⟩

/-- **When lifecycle samples fail closed.**  For every argument and every content of the files, the
observation of a lifecycle returns, sets an identity exactly if it, its artifact and its sidecar are
valid, and without an identity every other call is refused and changes nothing: exactly if reading
the sidecar of a valid identity does not come to the hint of a missing covariance that is no
mapping, or to a value that `float` does not take. -/
theorem failsClosed_iff (lib : Library C) (store : InitialPoseStore) (files : Files C)
    (mapId mode generation : PyValue) :
    FailsClosed lib store files mapId mode generation ↔
      ¬ SampleEscapes lib store files mapId mode generation := by
  -- where the error of the store is raised, it is caught
  have hrefused (identity : Option MapIdentity) {raised : Raised} (hnamed : raised.named)
      (hresult : store.observeLifecycle lib files mapId mode generation =
        { store with identity := identity }.refuse raised)
      (hinvalid : ∀ identity, ¬ (identityOf lib mapId mode generation = .ok identity ∧
        ArtifactValid lib files identity ∧ SidecarAccepted lib store.frameId files identity)) :
      FailsClosed lib store files mapId mode generation := by
    obtain ⟨detail, rfl⟩ := hnamed
    refine ⟨⟨_, by rw [hresult]; rfl⟩, fun identity => ?_, fun h => inert_of_none h⟩
    rw [hresult]
    exact ⟨fun h => (by cases h), fun h => absurd h (hinvalid identity)⟩
  cases hidentity : identityOf lib mapId mode generation with
  | error raised =>
    refine ⟨fun _ ⟨identity, _, _, hok, _⟩ => (by cases hidentity.symm.trans hok), fun _ => ?_⟩
    refine hrefused store.identity (identityOf_raises hidentity)
      (by rw [observeLifecycle, hidentity]) ?_
    exact fun identity h => (by cases hidentity.symm.trans h.1)
  | ok identity =>
    have hsame {other : MapIdentity} (hother : identityOf lib mapId mode generation = .ok other) :
        other = identity := Except.ok.inj (hother.symm.trans hidentity)
    cases hverify : verifyArtifact lib files identity with
    | error raised =>
      have hinvalid : ¬ ArtifactValid lib files identity := fun h => by
        cases hverify.symm.trans (verifyArtifact_eq_ok_iff.mpr h)
      refine ⟨fun _ ⟨other, _, _, hok, hartifact, _⟩ => hinvalid (hsame hok ▸ hartifact),
        fun _ => ?_⟩
      refine hrefused store.identity (verifyArtifact_raises hverify)
        (by rw [observeLifecycle, hidentity]; dsimp only; rw [hverify]) ?_
      exact fun other h => hinvalid (hsame h.1 ▸ h.2.1)
    | ok _ =>
      have hartifact := verifyArtifact_eq_ok_iff.mp hverify
      obtain ⟨haccepted, hescapes⟩ := readSidecar_cases store files identity
      have hsample : SampleEscapes lib store files mapId mode generation ↔
          ∃ raised, readSidecar lib store files identity = .error raised ∧ ¬ raised.named := by
        rw [hescapes]
        constructor
        · rintro ⟨other, content, document, hok, -, hrest⟩
          obtain rfl := hsame hok
          exact ⟨content, document, hrest⟩
        · rintro ⟨content, document, hrest⟩
          exact ⟨identity, content, document, hidentity, hartifact, hrest⟩
      cases hread : readSidecar lib store files identity with
      | ok saved =>
        have hresult : store.observeLifecycle lib files mapId mode generation =
            let store := { store with
              identity := some identity
              saved := saved
              error := if saved.isSome then ""
                else "no operator initial pose saved for this map generation" }
            (.ok (.status store.status), store) := by
          rw [observeLifecycle, hidentity]
          dsimp only
          rw [hverify]
          dsimp only
          rw [hread]
        have hquiet : ¬ SampleEscapes lib store files mapId mode generation := by
          rw [hsample]
          rintro ⟨raised, hraised, -⟩
          cases hread.symm.trans hraised
        refine ⟨fun _ => hquiet, fun _ => ⟨⟨_, by rw [hresult]⟩, fun other => ?_, inert_of_none⟩⟩
        rw [hresult]
        constructor
        · rintro ⟨⟩
          exact ⟨hidentity, hartifact, haccepted.mp ⟨saved, hread⟩⟩
        · rintro ⟨hok, -⟩
          rw [hsame hok]
      | error raised =>
        have hresult : store.observeLifecycle lib files mapId mode generation =
            { store with identity := some identity }.refuse raised := by
          rw [observeLifecycle, hidentity]
          dsimp only
          rw [hverify]
          dsimp only
          rw [hread]
        by_cases hnamed : raised.named
        · have hquiet : ¬ SampleEscapes lib store files mapId mode generation := by
            rw [hsample]
            rintro ⟨other, hother, hescapes⟩
            cases hread.symm.trans hother
            exact hescapes hnamed
          refine ⟨fun _ => hquiet, fun _ => hrefused _ hnamed hresult fun other h => ?_⟩
          obtain rfl := hsame h.1
          obtain ⟨saved, hsaved⟩ := haccepted.mpr h.2.2
          cases hread.symm.trans hsaved
        · refine ⟨fun h => ?_, fun h => absurd (hsample.mpr ⟨raised, hread, hnamed⟩) h⟩
          obtain ⟨status, hstatus⟩ := h.returns
          rw [hresult] at hstatus
          cases raised with
          | initialPoseError detail => exact absurd ⟨detail, rfl⟩ hnamed
          | _ => cases hstatus

end Lifecycle

/-- A sidecar whose position is a text. -/
def northSidecar : PyValue :=
  .dict [("schema", .str SCHEMA), ("map_id", .str "lab"), ("map_generation", .int 1),
    ("frame_id", .str "map"),
    ("pose", .dict [("position", .dict [("x", .str "north")]),
      ("orientation",
        .dict [("x", .float 0), ("y", .float 0), ("z", .float 0), ("w", .float (.fin 1))]),
      ("covariance", .list (List.replicate 36 (.float 0)))])]

def northFiles : Files PyValue := ⟨fun _ => savedMap "1", fun _ => some northSidecar⟩

/-- The sample raises `ValueError`, and the identity is set. -/
theorem northSidecar_escapes :
    ¬ FailsClosed plainLibrary { root := "/maps" } northFiles (.str "lab") (.str "localization")
        (.int 1) ∧
      (observeLifecycle plainLibrary { root := "/maps" } northFiles (.str "lab")
        (.str "localization") (.int 1)).2.identity = some ⟨"lab", "localization", 1⟩ := by
  refine ⟨fun h => ?_, by decide +kernel⟩
  obtain ⟨status, hstatus⟩ := h.returns
  have hraised : (observeLifecycle plainLibrary { root := "/maps" } northFiles (.str "lab")
      (.str "localization") (.int 1)).1.isOk = false := by decide +kernel
  rw [hstatus] at hraised
  cases hraised

end UnitreeGo2.Dashboard
