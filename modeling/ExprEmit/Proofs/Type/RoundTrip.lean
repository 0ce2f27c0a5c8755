import ExprEmit.Proofs.Type.Reader

/-!
# The text of a type denotes the type

`Ty.denotes_text`: read as a C++ type-id, the text of a type denotes the type.  The grammar makes no
other type of it, so the text determines the type.

A declarator is written from the outermost layer inwards, with the text so far in the middle.  The
invariant is that the text so far denotes, around what is still to be written, the whole type, and
that it is free of marks outside parentheses where a suffix comes next (`Around`).
-/

namespace ExprEmit

variable {A : Alphabet} {decls : List TypeDecl}

namespace Ty

mutual

/-- Whether only built-in types, declared types and pointers are `const` by themselves. -/
def constPlaced : Ty → Bool
  | primitive _ _ | named _ _ => true
  | pointer t _ => t.constPlaced
  | reference t c => !c && t.constPlaced
  | array t _ c => !c && t.constPlaced
  | function r ps c => !c && r.constPlaced && allConstPlaced ps

/-- Whether all types of a list have `const` only there. -/
def allConstPlaced : List Ty → Bool
  | [] => true
  | t :: ts => t.constPlaced && allConstPlaced ts

end

theorem allConstPlaced_iff {ts : List Ty} :
    allConstPlaced ts = true ↔ ∀ t ∈ ts, t.constPlaced = true := by
  induction ts with
  | nil => simp [allConstPlaced]
  | cons t ts ih => simp [allConstPlaced, ih]

end Ty

namespace Denotes

/-- The tokens of joined parameters denote the parameters. -/
theorem intercalate (ts : List Ty)
    (h : ∀ t ∈ ts, Denotes decls (.typeId t) (t.typeId.tokens A)) :
    Denotes decls (.params ts)
      ([Token.symbol ","].intercalate (ts.map fun t => t.typeId.tokens A)) := by
  induction ts with
  | nil => exact .noParams
  | cons t ts ih =>
    obtain ⟨ht, hts⟩ := List.forall_mem_cons.mp h
    cases ts with
    | nil => simpa [List.intercalate] using ht.oneParam
    | cons u us =>
      rw [List.map_cons, List.map_cons, List.intercalate_cons_cons]
      exact ht.moreParams (ih hts)

end Denotes

/-- What the text `rest` of a declarator keeps while it grows around the type `t`: it makes the type
`whole` of `t`, and it does so without marks outside parentheses where a suffix comes next. -/
structure Around (A : Alphabet) (decls : List TypeDecl) (t whole : Ty) (rest : String)
    (suffixed : Bool) : Prop where
  fits : DeclaratorFits A rest suffixed
  declarator : Denotes decls (.declarator t whole) (A.tokens rest)
  direct : t.takesSuffix = true → Denotes decls (.direct t whole) (A.tokens rest)

namespace Around

variable {t whole : Ty} {rest : String} {suffixed : Bool}

theorem empty : Around A decls t t "" false :=
  ⟨declaratorFits_empty _, Denotes.nothing.direct, fun _ => .nothing⟩

/-- A mark goes in front, between parentheses if a suffix comes next. -/
theorem marked {mark : String} (hfits : DeclaratorFits A rest suffixed) (hmark : Whole A mark)
    (hne : A.tokens mark ≠ [])
    (h : Denotes decls (.declarator t whole) (A.tokens mark ++ A.tokens rest)) :
    Around A decls t whole (Ty.markedDeclarator mark rest suffixed t.takesSuffix) false := by
  obtain ⟨hfits', htokens⟩ := hfits.marked hmark t.takesSuffix
  have hgroup := h.group (by simp [hne])
  refine ⟨hfits', ?_, fun hsuffix => ?_⟩
  · rw [htokens]
    -- with the parentheses or without, the same type is denoted
    cases t.takesSuffix with
    | false => exact h
    | true => exact hgroup.direct
  · rw [htokens, hsuffix]
    exact hgroup

theorem pointer {c : Bool} (h : Around A decls (.pointer t c) whole rest suffixed) :
    Around A decls t whole (Ty.markedDeclarator (Ty.pointerMark c) rest suffixed t.takesSuffix)
      false := by
  obtain ⟨hmark, htokens⟩ := whole_pointerMark (A := A) c
  refine marked h.fits hmark (by simp [htokens]) ?_
  rw [htokens]
  exact h.declarator.pointer

theorem reference (h : Around A decls t.ref whole rest suffixed) :
    Around A decls t whole (Ty.markedDeclarator "&" rest suffixed t.takesSuffix) false := by
  obtain ⟨hmark, htokens⟩ := whole_referenceMark (A := A)
  refine marked h.fits hmark (by simp [htokens]) ?_
  rw [htokens]
  exact h.declarator.reference

theorem array {b : Option Nat} (h : Around A decls (t.arrayOf b) whole rest suffixed) :
    Around A decls t whole (rest ++ "[" ++ Ty.boundText b ++ "]") (suffixed || rest.isEmpty) := by
  obtain ⟨hfits, htokens⟩ := Ty.fits_array h.fits b
  have hdirect : Denotes decls (.direct t whole)
      (A.tokens (rest ++ "[" ++ Ty.boundText b ++ "]")) := by
    rw [htokens]
    simpa using (h.direct rfl).array
  exact ⟨hfits, hdirect.direct, fun _ => hdirect⟩

theorem function {ps : List Ty} (h : Around A decls (t.functionOf ps) whole rest suffixed)
    (hlex : ∀ u ∈ ps, LexesAs A (· ∈ dividers) u.text.toList (u.typeId.tokens A))
    (hps : ∀ u ∈ ps, Denotes decls (.typeId u) (u.typeId.tokens A)) :
    Around A decls t whole (rest ++ "(" ++ ", ".intercalate (Ty.paramTexts ps) ++ ")")
      (suffixed || rest.isEmpty) := by
  obtain ⟨hfits, htokens⟩ := Ty.fits_function h.fits ps hlex
  have hdirect : Denotes decls (.direct t whole)
      (A.tokens (rest ++ "(" ++ ", ".intercalate (Ty.paramTexts ps) ++ ")")) := by
    rw [htokens]
    simpa using (h.direct rfl).function (Denotes.intercalate ps hps)
  exact ⟨hfits, hdirect.direct, fun _ => hdirect⟩

/-- The type-id of a type inside the declarator so far denotes the whole type. -/
theorem typeId (h : Around A decls t whole rest suffixed) (hs : Scope A decls)
    (ht : ∀ d ∈ t.decls, d ∈ decls) (hconst : t.constPlaced = true) :
    Denotes decls (.typeId whole) ((t.typeIdAround rest suffixed).tokens A) := by
  -- `Around` is kept from layer to layer, until a specifier is left
  induction t generalizing whole rest suffixed with
  | primitive p c =>
    have hkeyword : A.tokens p.keyword = p.words.map .word := (lexesAs_keyword p).lex_eq
    rw [Ty.typeIdAround, TypeId.tokens_eq, hkeyword]
    exact h.declarator.primitive
  | named d c =>
    have hd := ht d (by simp [Ty.decls])
    have hqualified : A.tokens d.name.qualified = d.name.tokens :=
      (lexesAs_qualified (hs.nameable d hd).isName).lex_eq
    rw [Ty.typeIdAround, TypeId.tokens_eq, hqualified]
    exact h.declarator.named hd
  | pointer t c ih => exact ih h.pointer ht hconst
  | reference t c ih =>
    -- a `const` of the reference itself would not be written
    obtain ⟨rfl, hconst⟩ : c = false ∧ t.constPlaced = true := by
      simpa [Ty.constPlaced] using hconst
    exact ih h.reference ht hconst
  | array t b c ih =>
    obtain ⟨rfl, hconst⟩ : c = false ∧ t.constPlaced = true := by
      simpa [Ty.constPlaced] using hconst
    exact ih h.array ht hconst
  | function r ps c ihr ihps =>
    simp only [Ty.constPlaced, Bool.and_eq_true, Bool.not_eq_true', Ty.allConstPlaced_iff] at hconst
    obtain ⟨⟨rfl, hr⟩, hps⟩ := hconst
    simp only [Ty.decls, List.mem_append, Ty.mem_declsOfEach] at ht
    have hparam : ∀ u ∈ ps, ∀ d ∈ u.decls, d ∈ decls := by
      intro u hu d hd
      exact ht d (Or.inr ⟨u, hu, hd⟩)
    refine ihr (h.function (fun u hu => ?_) fun u hu => ?_) (fun d hd => ht d (Or.inl hd)) hr
    · exact u.lexesAs_text fun d hd => (hs.nameable d (hparam u hu d hd)).isName
    · exact ihps u hu empty (hparam u hu) (hps u hu)

end Around

namespace Ty

/-- The text of a type denotes the type. -/
theorem denotes_text (t : Ty) (hs : Scope A decls) (ht : ∀ d ∈ t.decls, d ∈ decls)
    (hconst : t.constPlaced = true) : Denotes decls (.typeId t) (A.tokens t.text) := by
  have htokens : A.tokens t.text = t.typeId.tokens A :=
    (t.lexesAs_text fun d hd => (hs.nameable d (ht d hd)).isName).lex_eq
  rw [htokens]
  exact Around.empty.typeId hs ht hconst

/-- What a type writes into a sink is read back as exactly this type, by a reader and by the
grammar, and no other type has the same text. -/
theorem read_text {σ : Type} (k : Sink σ) (hs : Scope A decls) (t : Ty)
    (ht : ∀ d ∈ t.decls, d ∈ decls) (hconst : t.constPlaced = true) :
    t.emit k = k.offerAll t.pieces ∧
      readType decls (A.tokens (String.join t.pieces)) = some t ∧
      (∀ u, Denotes decls (.typeId u) (A.tokens (String.join t.pieces)) ↔ u = t) ∧
        ∀ u : Ty, (∀ d ∈ u.decls, d ∈ decls) → u.constPlaced = true →
          String.join u.pieces = String.join t.pieces → u = t := by
  have hdenotes : Denotes decls (.typeId t) (A.tokens (String.join t.pieces)) :=
    denotes_text t hs ht hconst
  refine ⟨t.emit_eq_offerAll k, readType_of_denotes hs hdenotes, fun u => ?_, ?_⟩
  · constructor
    · intro hu
      exact hu.unique hs hdenotes
    · rintro rfl
      exact hdenotes
  · intro u hu huconst heq
    have hu' : Denotes decls (.typeId u) (A.tokens (String.join u.pieces)) :=
      denotes_text u hs hu huconst
    rw [heq] at hu'
    exact hu'.unique hs hdenotes

/-- A pointer to an array of constant pointers to a function. -/
theorem read_text_nested :
    let d : TypeDecl := ⟨1, ⟨["ns"], "T"⟩, .struct⟩
    let f : Ty := functionOf (ref (named d true)) [ofPrimitive .unsignedInt,
      ref (arrayOf (ofPrimitive .int) none)]
    let t : Ty := ptr (arrayOf (constPtr f) (some 3))
    Scope .ascii [d] ∧ t.constPlaced = true ∧
      t.text = "const ns::T & (* const (*)[3])(unsigned int, int (&)[])" ∧
        readType [d] (Alphabet.ascii.tokens (String.join t.pieces)) = some t := by
  intro d f t
  have hns : Alphabet.ascii.isIdentifier "ns" := rfl
  have hT : Alphabet.ascii.isIdentifier "T" := rfl
  have hnameable : d.IsNameable .ascii :=
    ⟨⟨hT, by simpa [d] using hns⟩, by simp [d], by decide⟩
  have hs : Scope .ascii [d] := ⟨by simpa using hnameable, by simp⟩
  have ht : ∀ e ∈ t.decls, e ∈ [d] := by
    simp [t, f, decls, declsOfEach, ptr, arrayOf, constPtr, functionOf, ref, ofPrimitive]
  have htext : t.text = "const ns::T & (* const (*)[3])(unsigned int, int (&)[])" := by
    simp only [t, f, d]
    rfl
  exact ⟨hs, rfl, htext, (read_text Sink.text hs t ht rfl).2.1⟩

end Ty

end ExprEmit
