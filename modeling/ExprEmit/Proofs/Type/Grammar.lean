import ExprEmit.Proofs.Type.Tokens

/-!
# The grammar of C++ type-ids

`Denotes` is the grammar of type-ids, production by production: an optional `const`, a specifier,
and an abstract declarator.  A declarator says what is made of a type in front of it: a mark `*` or
`&` is applied first, the suffixes `[..]` and `(..)` next, the last one before the others, and what
stands between parentheses in the end.  So suffixes bind tighter than marks.

A declared type is named by the declarations in scope.
-/

namespace ExprEmit

/-- A part of a type-id. -/
inductive TypePhrase where
  /-- A whole type-id, and the type it denotes. -/
  | typeId (t : Ty)
  /-- The parameters of a function. -/
  | params (ts : List Ty)
  /-- A declarator that makes `result` of `base`. -/
  | declarator (base result : Ty)
  /-- A declarator without marks, apart from those between parentheses. -/
  | direct (base result : Ty)

/-- Whether a part of a type-id has the tokens `ts`, where the declarations `scope` are known. -/
inductive Denotes (scope : List TypeDecl) : TypePhrase → List Token → Prop where
  | primitive {p : Primitive} {c : Bool} {t : Ty} {ts : List Token}
      (h : Denotes scope (.declarator (.primitive p c) t) ts) :
      Denotes scope (.typeId t) (constTokens c ++ p.words.map .word ++ ts)
  | named {d : TypeDecl} {c : Bool} {t : Ty} {ts : List Token} (hd : d ∈ scope)
      (h : Denotes scope (.declarator (.named d c) t) ts) :
      Denotes scope (.typeId t) (constTokens c ++ d.name.tokens ++ ts)
  | pointer {base t : Ty} {c : Bool} {ts : List Token}
      (h : Denotes scope (.declarator (.pointer base c) t) ts) :
      Denotes scope (.declarator base t) ([.symbol "*"] ++ constTokens c ++ ts)
  | reference {base t : Ty} {ts : List Token}
      (h : Denotes scope (.declarator base.ref t) ts) :
      Denotes scope (.declarator base t) ([.symbol "&"] ++ ts)
  | direct {base t : Ty} {ts : List Token} (h : Denotes scope (.direct base t) ts) :
      Denotes scope (.declarator base t) ts
  | nothing {base : Ty} : Denotes scope (.direct base base) []
  | group {base t : Ty} {ts : List Token} (h : Denotes scope (.declarator base t) ts)
      (hne : ts ≠ []) : Denotes scope (.direct base t) ([.symbol "("] ++ ts ++ [.symbol ")"])
  | array {base t : Ty} {bound : Option Nat} {ts : List Token}
      (h : Denotes scope (.direct (base.arrayOf bound) t) ts) :
      Denotes scope (.direct base t) (ts ++ [.symbol "["] ++ boundTokens bound ++ [.symbol "]"])
  | function {base t : Ty} {params : List Ty} {ts us : List Token}
      (h : Denotes scope (.direct (base.functionOf params) t) ts)
      (hus : Denotes scope (.params params) us) :
      Denotes scope (.direct base t) (ts ++ [.symbol "("] ++ us ++ [.symbol ")"])
  | noParams : Denotes scope (.params []) []
  | oneParam {t : Ty} {ts : List Token} (h : Denotes scope (.typeId t) ts) :
      Denotes scope (.params [t]) ts
  | moreParams {t u : Ty} {us : List Ty} {ts vs : List Token} (h : Denotes scope (.typeId t) ts)
      (hus : Denotes scope (.params (u :: us)) vs) :
      Denotes scope (.params (t :: u :: us)) (ts ++ [.symbol ","] ++ vs)

/-- The symbols that a declarator may start with. -/
def declaratorMarks : List Token := [.symbol "*", .symbol "&", .symbol "(", .symbol "["]

namespace Denotes

variable {scope : List TypeDecl} {p : TypePhrase} {ts : List Token}

/-- What the tokens of a part may start with. -/
theorem head (h : Denotes scope p ts) :
    match p with
    | .typeId _ => ∃ w more, ts = w :: more ∧ w.kind = .word
    | .declarator _ _ | .direct _ _ => ∀ s ∈ ts.head?, s ∈ declaratorMarks
    | .params us => us = [] ∧ ts = [] ∨ us ≠ [] ∧ ∃ w more, ts = w :: more ∧ w.kind = .word := by
  -- a type-id starts with `const` or with its specifier
  have hword : ∀ {c : Bool} {ws us : List Token}, (∃ w more, ws = w :: more ∧ w.kind = .word) →
      ∃ w more, constTokens c ++ ws ++ us = w :: more ∧ w.kind = .word := by
    rintro (_ | _) ws us ⟨w, more, rfl, hw⟩
    · exact ⟨w, more ++ us, rfl, hw⟩
    · exact ⟨.word "const", w :: more ++ us, rfl, rfl⟩
  induction h with
  | @primitive p => exact hword (by cases p <;> exact ⟨_, _, rfl, rfl⟩)
  | @named d =>
    refine hword ?_
    rw [Name.tokens]
    cases d.name.scope <;> exact ⟨_, _, rfl, rfl⟩
  | pointer | reference | group => simp [declaratorMarks]
  | direct _ ih => exact ih
  | nothing => simp
  | @array _ _ _ ts _ ih => cases ts <;> simp_all [declaratorMarks]
  | @function _ _ _ ts _ _ _ ih => cases ts <;> simp_all [declaratorMarks]
  | noParams => exact Or.inl ⟨rfl, rfl⟩
  | oneParam _ ih => exact Or.inr ⟨List.cons_ne_nil _ _, ih⟩
  | moreParams _ _ ih =>
    obtain ⟨w, more, rfl, hw⟩ := ih
    exact Or.inr ⟨List.cons_ne_nil _ _, w, _, rfl, hw⟩

end Denotes

end ExprEmit
