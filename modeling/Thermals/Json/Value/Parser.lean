import Thermals.Json.Token

namespace Thermals.Json.Value

abbrev Rest (tokens : List Token) : Type := { rest : List Token // rest.length < tokens.length }

mutual

def take? (tokens : List Token) : Option (Value × Rest tokens) :=
  match tokens with
  | .scalar value :: rest => some (value, ⟨rest, by simp only [List.length_cons]; omega⟩)
  | .openArray :: .closeArray :: rest => some (.array [], ⟨rest, by simp only [List.length_cons]; omega⟩)
  | .openArray :: rest =>
    match takeItems? rest with
    | some (items, ⟨rest, less⟩) => some (.array items, ⟨rest, by simp only [List.length_cons]; omega⟩)
    | none => none
  | .openObject :: .closeObject :: rest => some (.object [], ⟨rest, by simp only [List.length_cons]; omega⟩)
  | .openObject :: rest =>
    match takeFields? rest with
    | some (fields, ⟨rest, less⟩) => some (.object fields, ⟨rest, by simp only [List.length_cons]; omega⟩)
    | none => none
  | _ => none
termination_by (tokens.length, 0)

def takeItems? (tokens : List Token) : Option (List Value × Rest tokens) :=
  match take? tokens with
  | some (item, ⟨.closeArray :: rest, less⟩) =>
    some ([item], ⟨rest, by simp only [List.length_cons] at less; omega⟩)
  | some (item, ⟨.comma :: rest, less⟩) =>
    match takeItems? rest with
    | some (items, ⟨rest, fewer⟩) =>
      some (item :: items, ⟨rest, by simp only [List.length_cons] at less; omega⟩)
    | none => none
  | _ => none
termination_by (tokens.length, 1)
decreasing_by
  · exact .right _ (by omega)
  · simp only [List.length_cons] at less
    exact .left _ _ (by omega)

def takeFields? (tokens : List Token) : Option (List (List Char × Value) × Rest tokens) :=
  match tokens with
  | .scalar (.string key) :: .colon :: tail =>
    match take? tail with
    | some (value, ⟨.closeObject :: rest, less⟩) =>
      some ([(key, value)], ⟨rest, by simp only [List.length_cons] at less ⊢; omega⟩)
    | some (value, ⟨.comma :: rest, less⟩) =>
      match takeFields? rest with
      | some (fields, ⟨rest, fewer⟩) =>
        some ((key, value) :: fields, ⟨rest, by simp only [List.length_cons] at less ⊢; omega⟩)
      | none => none
    | _ => none
  | _ => none
termination_by (tokens.length, 1)
decreasing_by
  · simp only [List.length_cons]
    exact .left _ _ (by omega)
  · simp only [List.length_cons] at less ⊢
    exact .left _ _ (by omega)

end

def parse? (text : String) : Option Value :=
  match tokens? text.toList with
  | none => none
  | some tokens =>
    match take? tokens with
    | some (value, ⟨[], _⟩) => some value
    | _ => none

end Thermals.Json.Value
