import UnitreeGo2.Lib.PyValue
import Mathlib.Data.List.Sort
import Mathlib.Data.Finset.Sort
import Mathlib.Data.String.Basic
import Mathlib.Algebra.Order.Ring.Rat

/-!
# Saved landmarks

A landmark file is checked entry by entry while it is loaded.  A name is resolved by searching
the text of the request for the names of the landmarks, with both texts normalized.
-/

namespace UnitreeGo2.SemanticNavigation

/-- What the store uses of Python. -/
structure LandmarkLibrary where
  /-- `str(value)`. -/
  text : PyValue → String
  strip : String → String
  /-- `repr(text)`. -/
  repr : String → String
  normalizeText : String → String
  /-- `float(text)`, where it is a number. -/
  parseFloat : String → Option ExtRat
  normalizeYaw : ℚ → ℚ
  /-- The float sum of `x1 * y2 - x2 * y1` over pairs of points. -/
  crossSum : List ((ℚ × ℚ) × (ℚ × ℚ)) → ExtRat

inductive LandmarkRaised where
  | landmarkError (text : String)
  | overflowError
  deriving DecidableEq, Repr

inductive LandmarkKind where
  | navigation
  | marker
  deriving DecidableEq, Repr

structure Landmark where
  id : String
  name : String
  aliases : List String
  kind : LandmarkKind
  mapId : String
  mapGeneration : ℕ
  frameId : String
  x : Option ℚ
  y : Option ℚ
  yaw : Option ℚ
  arrivalRadius : Option ℚ
  region : Option (List (ℚ × ℚ))
  verified : Bool
  metadata : List (String × PyValue)

def Landmark.terms (item : Landmark) : List String := item.name :: item.aliases

def Landmark.navigable (item : Landmark) : Bool := item.kind = .navigation

structure LandmarkStore where
  mapId : String
  mapGeneration : ℕ
  frameId : String
  landmarks : List Landmark

/-- The double of `0.05`. -/
def minimumArrivalRadius : ℚ := 3602879701896397 / 2 ^ 56

/-- The double of `0.35`. -/
def DEFAULT_ARRIVAL_RADIUS_M : ℚ := 3152519739159347 / 2 ^ 53

/-- The double of `1e-9`. -/
def minimumTwiceArea : ℚ := 4835703278458517 / 2 ^ 82

abbrev Checked := Except LandmarkRaised

def refuse {α : Type} (text : String) : Checked α := .error (.landmarkError text)

/-- `value or default`. -/
def orDefault (default : PyValue) : PyValue → PyValue
  | .none | .bool false | .int 0 | .str "" | .list [] | .dict [] => default
  | .float x => if x = 0 then default else .float x
  | value => value

/-- `items.get(key, default)`. -/
def getOr (items : List (String × PyValue)) (key : String) (default : PyValue) : PyValue :=
  (items.lookup key).getD default

/-! ## Loading -/

section Loading

variable (lib : LandmarkLibrary)

def finiteNumber (value : PyValue) (label : String) : Checked ℚ :=
  match value with
  | .bool _ => refuse (label ++ " must be a finite number")
  | _ =>
    match value.toFloat lib.parseFloat with
    | .error .overflowError => .error .overflowError
    | .error _ => refuse (label ++ " must be a finite number")
    | .ok (.fin x) => .ok x
    | .ok _ => refuse (label ++ " must be a finite number")

/-- The points of a region, from an index on. -/
def regionPoints (landmarkId : String) : ℕ → List PyValue → Checked (List (ℚ × ℚ))
  | _, [] => .ok []
  | index, point :: points =>
    let label := "landmark " ++ lib.repr landmarkId ++ " region.points[" ++ toString index ++ "]"
    match point with
    | .list [x, y] => do
      let x ← finiteNumber lib x (label ++ ".x")
      let y ← finiteNumber lib y (label ++ ".y")
      let rest ← regionPoints landmarkId (index + 1) points
      return (x, y) :: rest
    | _ => refuse (label ++ " must be [x, y]")

def parseRegion (value : PyValue) (landmarkId : String) : Checked (Option (List (ℚ × ℚ))) :=
  let label := "landmark " ++ lib.repr landmarkId
  match value with
  | .none => .ok none
  | .dict items =>
    match PyValue.get items "points" with
    | .list points =>
      if points.length < 3 then
        refuse (label ++ " region.points must contain at least three points")
      else do
        let parsed ← regionPoints lib landmarkId 0 points
        if parsed.toFinset.card < 3 then
          refuse (label ++ " region must contain three distinct points")
        else if (lib.crossSum (parsed.zip (parsed.drop 1 ++ parsed.take 1))).abs.le
            (.fin minimumTwiceArea) then
          refuse (label ++ " region polygon has zero area")
        else return some parsed
    | _ => refuse (label ++ " region.points must contain at least three points")
  | _ => refuse (label ++ " region must be a mapping")

/-- One coordinate of a pose. -/
def coordinate (pose : List (String × PyValue)) (landmarkId key : String) : Checked ℚ :=
  let label := "landmark " ++ lib.repr landmarkId
  match pose.lookup key with
  | none => refuse (label ++ " pose requires x, y and yaw")
  | some value => finiteNumber lib value (label ++ " pose." ++ key)

/-- The point pose of an entry, if it has one. -/
def parsePose (landmarkId : String) : PyValue → Checked (Option (ℚ × ℚ × ℚ))
  | .none => .ok none
  | .dict pose => do
    let x ← coordinate lib pose landmarkId "x"
    let y ← coordinate lib pose landmarkId "y"
    let yaw ← coordinate lib pose landmarkId "yaw"
    return some (x, y, lib.normalizeYaw yaw)
  | _ => refuse ("landmark " ++ lib.repr landmarkId ++ " pose must be a mapping")

def kindOf : String → Option LandmarkKind
  | "navigation" => some .navigation
  | "marker" => some .marker
  | _ => none

/-- The arrival radius, which only a navigation landmark has. -/
def parseArrivalRadius (row : List (String × PyValue)) (landmarkId : String) :
    LandmarkKind → Checked (Option ℚ)
  | .navigation => do
    let radius ← finiteNumber lib
      (getOr row "arrival_radius" (.float (.fin DEFAULT_ARRIVAL_RADIUS_M)))
      ("landmark " ++ lib.repr landmarkId ++ " arrival_radius")
    if minimumArrivalRadius ≤ radius ∧ radius ≤ 10 then return some radius
    else refuse ("landmark " ++ lib.repr landmarkId ++
      " arrival_radius must be between 0.05 and 10.0 metres")
  | .marker =>
    if "arrival_radius" ∈ row.map Prod.fst then
      refuse ("non-navigation marker " ++ lib.repr landmarkId ++ " cannot set arrival_radius")
    else .ok none

/-- The identity of the map of a file. -/
structure MapBinding where
  mapId : String
  mapGeneration : ℕ
  frameId : String

/-- An entry with an identifier, a name and a region that have been read. -/
def parseEntry (binding : MapBinding) (row : List (String × PyValue)) (landmarkId name : String)
    (region : Option (List (ℚ × ℚ))) : Checked Landmark :=
  let label := "landmark " ++ lib.repr landmarkId
  match kindOf (lib.strip (lib.text (getOr row "kind" (.str "navigation")))) with
  | none => refuse (label ++ " kind must be one of ['marker', 'navigation']")
  | some kind =>
    match orDefault (.list []) (PyValue.get row "aliases") with
    | .list aliasesRaw =>
      match getOr row "verified" (.bool false) with
      | .bool verified =>
        match orDefault (.dict []) (PyValue.get row "metadata") with
        | .dict metadata => do
          let pose ← parsePose lib landmarkId (PyValue.get row "pose")
          if kind = .navigation ∧ pose = none then
            refuse ("navigation landmark " ++ lib.repr landmarkId ++ " requires a point pose")
          else if kind = .marker ∧ pose = none ∧ region = none then
            refuse ("marker " ++ lib.repr landmarkId ++ " requires a point pose or region")
          else do
            let arrivalRadius ← parseArrivalRadius lib row landmarkId kind
            return {
              id := landmarkId
              name
              aliases := (aliasesRaw.map fun value => lib.strip (lib.text value)).filter (· ≠ "")
              kind
              mapId := binding.mapId
              mapGeneration := binding.mapGeneration
              frameId := binding.frameId
              x := pose.map fun pose => pose.1
              y := pose.map fun pose => pose.2.1
              yaw := pose.map fun pose => pose.2.2
              arrivalRadius
              region
              verified
              metadata }
        | _ => refuse (label ++ " metadata must be a mapping")
      | _ => refuse (label ++ " verified must be a YAML boolean")
    | _ => refuse (label ++ " aliases must be a list")

/-- One entry of the list `landmarks`. -/
def parseRow (binding : MapBinding) (index : ℕ) : PyValue → Checked Landmark
  | .dict row => do
    let landmarkId := lib.strip (lib.text (getOr row "id" (.str "")))
    let name := lib.strip (lib.text (getOr row "name" (.str "")))
    let region ← parseRegion lib (PyValue.get row "region") landmarkId
    if landmarkId = "" ∨ name = "" then
      refuse ("landmarks[" ++ toString index ++ "] requires id and name")
    else parseEntry lib binding row landmarkId name region
  | _ => refuse ("landmarks[" ++ toString index ++ "] must be a mapping")

/-- The owner of each normalized term, the newest first. -/
abbrev SeenTerms := List (String × String)

/-- The terms of a landmark are claimed for it. -/
def claimTerms (landmarkId : String) : List String → SeenTerms → Checked SeenTerms
  | [], seen => .ok seen
  | term :: terms, seen =>
    if lib.normalizeText term = "" then
      refuse ("landmark " ++ lib.repr landmarkId ++ " contains an empty term")
    else
      match seen.lookup (lib.normalizeText term) with
      | none => claimTerms landmarkId terms ((lib.normalizeText term, landmarkId) :: seen)
      | some owner =>
        if owner ≠ landmarkId then
          refuse ("ambiguous normalized landmark term " ++ lib.repr term ++ ": " ++
            lib.repr owner ++ " and " ++ lib.repr landmarkId)
        else claimTerms landmarkId terms ((lib.normalizeText term, landmarkId) :: seen)

/-- The entries from an index on. -/
def parseRows (binding : MapBinding) : ℕ → List PyValue → SeenTerms → Checked (List Landmark)
  | _, [], _ => .ok []
  | index, row :: rows, seen => do
    let item ← parseRow lib binding index row
    let seen ← claimTerms lib item.id item.terms seen
    let items ← parseRows binding (index + 1) rows seen
    return item :: items

/-- `LandmarkStore.__init__`. -/
def LandmarkStore.init (binding : MapBinding) (landmarks : List Landmark) :
    Checked LandmarkStore :=
  if lib.strip binding.mapId = "" then refuse "landmark file has an empty map_id"
  else if binding.frameId ≠ "map" then
    refuse ("landmark frame must be 'map', got " ++ lib.repr binding.frameId)
  else if landmarks = [] then refuse "landmark file contains no landmarks"
  else if ¬ (landmarks.map Landmark.id).Nodup then refuse "landmark ids must be unique"
  else .ok ⟨binding.mapId, binding.mapGeneration, binding.frameId, landmarks⟩

def UINT64_MAX : ℤ := 2 ^ 64 - 1

def parseGeneration (value : PyValue) (label : String) : Checked ℕ :=
  match value.exactInt? with
  | none => refuse (label ++ " must be a YAML/integer uint64")
  | some n =>
    if n < 0 ∨ UINT64_MAX < n then
      refuse (label ++ " must be within [0, " ++ toString UINT64_MAX ++ "]")
    else .ok n.toNat

/-- What a file says of its map. -/
def parseBinding (raw : List (String × PyValue)) : Checked MapBinding :=
  if ¬ (PyValue.get raw "schema_version").eqInt 2 then
    refuse "unsupported semantic landmark schema_version"
  else do
    let mapGeneration ← parseGeneration (PyValue.get raw "map_generation") "landmark map_generation"
    return {
      mapId := lib.strip (lib.text (getOr raw "map_id" (.str "")))
      mapGeneration
      frameId := lib.strip (lib.text (getOr raw "frame_id" (.str "map"))) }

def LandmarkStore.fromMapping (raw : PyValue) : Checked LandmarkStore :=
  match raw with
  | .dict items => do
    let binding ← parseBinding lib items
    match PyValue.get items "landmarks" with
    | .list rows =>
      let landmarks ← parseRows lib binding 0 rows []
      LandmarkStore.init lib binding landmarks
    | _ => refuse "landmarks must be a list"
  | _ => refuse "landmark document must be a mapping"

end Loading

/-! ## Resolving -/

section Resolving

variable (lib : LandmarkLibrary)

/-- `term in query`, of normalized texts. -/
def occursIn (term query : String) : Bool := term.toList <:+: query.toList

/-- A term of a landmark that the query mentions. -/
structure TermMatch where
  length : ℕ
  item : Landmark
  term : String

/-- The terms of a landmark that the query mentions. -/
def Landmark.mentions (query : String) (item : Landmark) : List TermMatch :=
  (item.terms.filter fun term =>
    lib.normalizeText term ≠ "" && occursIn (lib.normalizeText term) query).map fun term =>
      ⟨(lib.normalizeText term).length, item, term⟩

/-- `items[key] = value`. -/
def setItem {α : Type} (items : List (String × α)) (key : String) (value : α) :
    List (String × α) :=
  if key ∈ items.map Prod.fst then
    items.map fun entry => if entry.1 = key then (key, value) else entry
  else items ++ [(key, value)]

/-- The landmarks that are mentioned, by their identifiers. -/
def matchedItems (found : List TermMatch) : List (String × Landmark) :=
  found.foldl (fun items entry => setItem items entry.item.id entry.item) []

/-- `sorted(set(texts))`, printed. -/
def printedSorted (texts : List String) : String :=
  "[" ++ String.intercalate ", " ((texts.toFinset.sort (· ≤ ·)).map lib.repr) ++ "]"

/-- The mentioned terms of the landmarks of one sort. -/
def mentionedIn (landmarks : List Landmark) (navigable : Bool) (query : String) :
    List TermMatch :=
  landmarks.flatMap fun item => if item.navigable = navigable then item.mentions lib query else []

/-- A request of the active map. -/
structure LandmarkQuery where
  utterance : String
  expectedMapId : String
  expectedGeneration : ℕ
  requireVerified : Bool := true

/-- No navigable landmark is mentioned. -/
def unmatched (request : LandmarkQuery) (markerFound : List TermMatch) : Checked Landmark :=
  if markerFound ≠ [] then
    refuse ("matched non-navigation marker(s) " ++
      printedSorted lib (markerFound.map fun entry => entry.item.name) ++
      "; markers cannot be dispatched as navigation goals")
  else refuse ("unknown semantic landmark in " ++ lib.repr request.utterance)

/-- The one navigable landmark that is mentioned. -/
def selectOnly (request : LandmarkQuery) : List (String × Landmark) → Checked Landmark
  | [(_, item)] =>
    if request.requireVerified && !item.verified then
      refuse ("landmark " ++ lib.repr item.name ++ " has no physically verified approach pose")
    else .ok item
  | matched => refuse ("ambiguous semantic landmark in " ++ lib.repr request.utterance ++ ": " ++
      printedSorted lib (matched.map Prod.fst))

def LandmarkStore.resolve (store : LandmarkStore) (request : LandmarkQuery) : Checked Landmark :=
  let query := lib.normalizeText request.utterance
  if query = "" then refuse "landmark name is empty"
  else if store.mapId ≠ request.expectedMapId then
    refuse ("landmark map_id " ++ lib.repr store.mapId ++ " does not match active map " ++
      lib.repr request.expectedMapId)
  else if store.mapGeneration ≠ request.expectedGeneration then
    refuse ("landmark map generation " ++ toString store.mapGeneration ++
      " does not match active map generation " ++ toString request.expectedGeneration)
  else
    let found := mentionedIn lib store.landmarks true query
    if found = [] then unmatched lib request (mentionedIn lib store.landmarks false query)
    else selectOnly lib request (matchedItems found)

end Resolving

end UnitreeGo2.SemanticNavigation
