import MarketWire.Json.Reader

namespace MarketWire.Json

abbrev Fields := List (Option Draft)

def fillField (name : String) (d : Draft) : List String → Fields → Option Fields
  | n :: names, f :: fields =>
      if n = name then
        match f with
        | none => some (some d :: fields)
        | some _ => none
      else (fillField name d names fields).map (f :: ·)
  | _, fields => some fields

def fillFields (names : List String) : List (Literal × Draft) → Fields → Option Fields
  | [], fields => some fields
  | (l, d) :: rest, fields =>
      match Literal.text? l with
      | none => none
      | some name =>
          match fillField name d names fields with
          | none => none
          | some fields => fillFields names rest fields

def placeFields : List String → List Draft → Option Fields
  | [], [] => some []
  | [], _ :: _ => none
  | _ :: names, [] => (placeFields names []).map (none :: ·)
  | _ :: names, d :: rest => (placeFields names rest).map (some d :: ·)

def Draft.fields? (names : List String) : Draft → Option Fields
  | .obj members => fillFields names members (names.map fun _ => none)
  | .arr items => placeFields names items
  | _ => none

def Draft.str? : Draft → Option String
  | .str l => Literal.text? l
  | _ => none

def Draft.inner? (d : Draft) : Option Json := d.value? (maxLevels - 1)

def optionalField {α : Type} (read : Draft → Option α) : Option Draft → Option (Option α)
  | none => some none
  | some .null => some none
  | some d => (read d).map some

def defaultField {α : Type} (default : α) (read : Draft → Option α) : Option Draft → Option α
  | none => some default
  | some d => read d

end MarketWire.Json
