import ExprEmit.Json.Record

/-!
# Choices

One of several variants is written as an object whose only key names the variant, or, for a variant
without content, as that name by itself.
-/

namespace ExprEmit.Json.Reader

/-- Reads the name of a variant, whose opening quotation mark has been seen. -/
def variantKey (τ : Type) [Keyed τ] : Reader τ := do
  let k ← text
  match Keyed.ofKey? k with
  | some t => return t
  | none => failBefore (.unknownVariant k ((Keyed.all : List τ).map Keyed.key))

/-- Reads the key of an object that names a variant. -/
def objectVariant (τ : Type) [Keyed τ] : Reader τ := do
  match ← peek with
  | some '"' => variantKey τ
  | some '}' => failWithin .expectedValue
  | some _ => failWithin .keyNotString
  | none => failWithin .endOfObject

/-- Closes the object around a variant. -/
def closeVariant : Reader PUnit := do
  match ← peek with
  | some '}' => advance
  | some _ => failBefore .expectedValue
  | none => failBefore .endOfObject

/-- Reads a variant of `τ` with its content; `bare` says what a name by itself means, or what it
lacks. -/
def choice (τ : Type) [Keyed τ] {α : Type} (depth : Nat) (bare : τ → Except String α)
    (content : (inner : Nat) → inner < depth → τ → Reader α) : Reader α := value fun c =>
  if c = '"' then do
    match bare (← variantKey τ) with
    | .ok a => return a
    | .error lacking => failUnplaced (.wrongKind .bareVariant lacking)
  else if c = '{' then
    enter depth fun inner h => do
      let t ← objectVariant τ
      colon
      let a ← content inner h t
      closeVariant
      return a
  else failWithin .expectedValue

/-- Reads a value that is written by its key; in an object, its content is `null`. -/
def keyed (α : Type) [Keyed α] (depth : Nat) : Reader α :=
  choice α depth .ok fun _ _ a => do
    null
    return a

end ExprEmit.Json.Reader
