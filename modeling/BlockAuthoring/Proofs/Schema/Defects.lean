import BlockAuthoring.Schema.Report

/-!
# The defects of a schema

What is wrong with a JSON value as an authoring schema, said without the checks: each kind of
element has a table of demands, an element has one defect for every demand it does not meet, and
the defects of a schema are those of its elements, one element after the other. `ofSchema` reports
exactly these.

Nothing here looks at two elements at once, so the tables also say which schemas are well formed,
and that no element can hide what is wrong with another one.
-/

namespace BlockAuthoring

open Number

/-! ## Values that say nothing -/

/-- The values that count as missing: `null`, `false`, the zeros and whatever is empty. -/
inductive Json.SaysNothing : Json → Prop
  | null : SaysNothing .null
  | no : SaysNothing (.bool false)
  | zero : SaysNothing (.int 0)
  | zeroFloat (negative : Bool) (exponent : Int) :
      SaysNothing (.float (.finite negative 0 exponent))
  | emptyText : SaysNothing (.string "")
  | emptyArray : SaysNothing (.array [])
  | emptyObject : SaysNothing (.object [])

theorem Json.isTruthy_eq_false_iff (v : Json) : v.isTruthy = false ↔ v.SaysNothing := by
  constructor
  · intro h
    cases v with
    | null => exact .null
    | bool b => cases h; exact .no
    | int n =>
      have hn : n = 0 := by simpa [isTruthy] using h
      subst hn
      exact .zero
    | float x =>
      cases x with
      | finite negative significand exponent =>
        have hs : significand = 0 := by simpa [isTruthy, Binary64.isZero] using h
        subst hs
        exact .zeroFloat negative exponent
      | infinite negative => simp [isTruthy, Binary64.isZero] at h
      | notANumber => simp [isTruthy, Binary64.isZero] at h
    | string s =>
      have hs : s = "" := by simpa [isTruthy] using h
      subst hs
      exact .emptyText
    | array items =>
      cases items with
      | nil => exact .emptyArray
      | cons v rest => simp [isTruthy] at h
    | object members =>
      cases members with
      | nil => exact .emptyObject
      | cons m rest => simp [isTruthy] at h
  · intro h
    cases h <;> rfl

instance : DecidablePred Json.SaysNothing := fun v =>
  decidable_of_iff _ (Json.isTruthy_eq_false_iff v)

namespace Report

/-! ## Demands -/

/-- Something an element has to have, and what is said of one that does not. -/
structure Demand where
  met : Json → Prop
  complaint : String
  [decidable : DecidablePred met]

attribute [instance] Demand.decidable

/-- The member says something. -/
def Demand.filled (key complaint : String) : Demand where
  met v := ¬ (v.get key).SaysNothing
  complaint := complaint

/-- The member is an array. -/
def Demand.listed (key complaint : String) : Demand where
  met v := (v.get key).isArray = true
  complaint := complaint

/-- The hints for the authoring plugin are an object. -/
def Demand.hinted : Demand where
  met v := ((v.get "plugins").get "da").isObject = true
  complaint := ": missing \"plugins.da\""

def definitionDemands : List Demand :=
  [.filled "title" ": missing \"title\"", .filled "id" ": missing \"id\"", .hinted]

def modelDemands : List Demand :=
  [.filled "id" ": missing \"id\"", .listed "fields" ": missing \"fields\" array"]

def fieldDemands : List Demand :=
  [.filled "component" ": missing \"component\"",
    .filled "name" ": missing \"name\" (CSS selector)"]

def filterDemands : List Demand :=
  [.filled "id" ": missing \"id\"", .listed "components" ": missing \"components\" array"]

/-! ## Defects -/

/-- The remark on an element that does not meet a demand. -/
def Demand.unmet (path subject : String) (v : Json) (d : Demand) : List Remark :=
  if d.met v then [] else [⟨path, subject ++ d.complaint, .missingField⟩]

/-- What is wrong with the element at `path` that is called `subject`, its own elements aside. -/
def ownDefects (path subject : String) (demands : List Demand) (v : Json) : List Remark :=
  if v.isObject then demands.flatMap (·.unmet path subject v)
  else [⟨path, subject ++ ": not an object", .invalidType⟩]

def definitionDefects (i : Nat) (v : Json) : List Remark :=
  ownDefects ("definitions[" ++ toString i ++ "]") ("Definition " ++ toString i) definitionDemands v

def fieldPath (i j : Nat) : String :=
  "models[" ++ toString i ++ "].fields[" ++ toString j ++ "]"

def fieldSubject (i j : Nat) : String := "Model " ++ toString i ++ ", Field " ++ toString j

def fieldDefects (i j : Nat) (v : Json) : List Remark :=
  ownDefects (fieldPath i j) (fieldSubject i j) fieldDemands v

/-- The items of an array; other values have none. -/
def itemsOf : Json → List Json
  | .array items => items
  | _ => []

/-- What is said of the items of a list, one after the other and each under its index. -/
def eachItem (said : Nat → Json → List Remark) (items : List Json) : List Remark :=
  items.zipIdx.flatMap fun (v, i) => said i v

@[simp] theorem eachItem_nil (said : Nat → Json → List Remark) : eachItem said [] = [] := rfl

@[simp] theorem eachItem_silent (items : List Json) : eachItem (fun _ _ => []) items = [] := by
  simp [eachItem]

/-- What is wrong with the model at `i`, and then with each of its fields. -/
def modelDefects (i : Nat) (v : Json) : List Remark :=
  ownDefects ("models[" ++ toString i ++ "]") ("Model " ++ toString i) modelDemands v
    ++ eachItem (fieldDefects i) (itemsOf (v.get "fields"))

def filterDefects (i : Nat) (v : Json) : List Remark :=
  ownDefects ("filters[" ++ toString i ++ "]") ("Filter " ++ toString i) filterDemands v

/-- What is wrong with the list under `key`: it is missing, it is no list, or what is wrong with
its elements in the order of their indices. -/
def listDefects (key : String) (defects : Nat → Json → List Remark) (schema : Json) :
    List Remark :=
  match schema.member? key with
  | none | some .null => [⟨key, "Missing \"" ++ key ++ "\" array", .missingKey⟩]
  | some (.array items) => eachItem defects items
  | some _ => [⟨key, "\"" ++ key ++ "\" must be an array", .invalidType⟩]

/-- What is wrong with a schema. -/
def schemaDefects (v : Json) : List Remark :=
  if v.isObject then
    listDefects "definitions" definitionDefects v ++ listDefects "models" modelDefects v
      ++ listDefects "filters" filterDefects v
  else [⟨"", "Schema must be a JSON object", .invalidType⟩]

/-- The remark on a field that is an object and whose label says nothing. -/
def unlabelledField (i j : Nat) (v : Json) : List Remark :=
  if v.isObject ∧ (v.get "label").SaysNothing then
    [⟨fieldPath i j, fieldSubject i j ++ ": missing \"label\" - recommended for UE UI",
      .missingLabel⟩]
  else []

/-- The remarks on the fields without a label, in the order of models and fields. -/
def unlabelled (v : Json) : List Remark :=
  eachItem (fun i m => eachItem (unlabelledField i) (itemsOf (m.get "fields")))
    (itemsOf (v.get "models"))

end Report

end BlockAuthoring
