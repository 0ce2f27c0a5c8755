import ExprEmit.Proofs.Emission
import ExprEmit.Proofs.Token.Munch

/-!
# The tokens of a type

The pieces of a type are written one behind another, and its declarator is put together from texts.
No two of these texts run together: each is `Whole`, that is, its tokens stay the same before a
blank, a comma or a bracket, and such a character stands wherever two of them meet.

`TypeId.Fits` is the invariant of a type-id under construction, `typeIdAround_fits` says that every
layer keeps it, and `Ty.lexesAs_text` draws the conclusion for a whole type.
-/

namespace ExprEmit

variable {A : Alphabet}

/-! ### Whole texts -/

/-- Whether the tokens of a text stay the same before a divider. -/
def Whole (A : Alphabet) (s : String) : Prop :=
  LexesAs A (· ∈ dividers) s.toList (A.tokens s)

theorem LexesAs.whole {P : Char → Prop} {s : String} {ts : List Token}
    (h : LexesAs A P s.toList ts) (hP : ∀ c ∈ dividers, P c) : Whole A s := by
  rw [Whole, Alphabet.tokens, h.lex_eq]
  exact h.mono hP

theorem whole_empty : Whole A "" := LexesAs.nil

namespace Whole

variable {s t : String}

theorem tokens_append (hs : Whole A s) (h : Follows (· ∈ dividers) t.toList) :
    A.tokens (s ++ t) = A.tokens s ++ A.tokens t := by
  rw [Alphabet.tokens, String.toList_append, hs _ h]
  rfl

/-- Two whole texts join if the second one starts with a divider. -/
theorem append (hs : Whole A s) (ht : Whole A t) (h : Follows (· ∈ dividers) t.toList) :
    Whole A (s ++ t) := by
  rw [Whole, hs.tokens_append h, String.toList_append]
  refine LexesAs.append hs ht fun rest hr => ?_
  cases hne : t.toList with
  | nil => exact hr
  | cons c cs => rw [hne] at h; exact h

end Whole

/-- A whole text behind one that ends by itself. -/
theorem LexesAs.whole_append {s t : String} {ts : List Token}
    (hs : LexesAs A anything s.toList ts) (ht : Whole A t) :
    Whole A (s ++ t) ∧ A.tokens (s ++ t) = ts ++ A.tokens t := by
  have h : LexesAs A (· ∈ dividers) (s ++ t).toList (ts ++ A.tokens t) := by
    rw [String.toList_append]
    exact hs.append_any ht
  exact ⟨h.whole fun _ hc => hc, h.lex_eq⟩

/-! ### Blanks and brackets -/

/-- The comma between two parameters or arguments. -/
theorem lexesAs_comma : LexesAs A anything ", ".toList [.symbol ","] :=
  (lexesAs_closed (s := ",") (by decide)).append_any lexesAs_blank

/-- A text between two brackets. -/
theorem Whole.bracketed {l r s : String} (hs : Whole A s) (hl : isClosed l.toList = true)
    (hr : isClosed r.toList = true) (hd : Follows (· ∈ dividers) r.toList) :
    Whole A (l ++ s ++ r) ∧
      A.tokens (l ++ s ++ r) = [.symbol l] ++ A.tokens s ++ [.symbol r] := by
  obtain ⟨hw, ht⟩ := (lexesAs_closed hl).whole_append hs
  have hright : Whole A r := (lexesAs_closed hr).whole fun _ _ => trivial
  refine ⟨hw.append hright hd, ?_⟩
  rw [hw.tokens_append hd, ht]
  exact congrArg _ (lexesAs_closed hr).lex_eq

/-! ### Names and keywords -/

/-- Whether a text is an identifier. -/
def Alphabet.isIdentifier (A : Alphabet) (s : String) : Prop := A.isWord s.toList = true

/-- Whether a name is a C++ name: identifiers joined by `::`. -/
def Alphabet.isName (A : Alphabet) (n : Name) : Prop :=
  A.isIdentifier n.identifier ∧ ∀ outer ∈ n.scope, A.isIdentifier outer

/-- The tokens of a qualified name. -/
def Name.tokens (n : Name) : List Token :=
  n.scope.foldr (fun outer inner => .word outer :: .symbol "::" :: inner) [.word n.identifier]

theorem lexesAs_identifier {s : String} (h : A.isIdentifier s) :
    LexesAs A A.endsWord s.toList [.word s] :=
  lexesAs_word h

theorem lexesAs_qualified {n : Name} (h : A.isName n) :
    LexesAs A A.endsWord n.qualified.toList n.tokens := by
  obtain ⟨scope, identifier⟩ := n
  obtain ⟨hid, hscope⟩ := h
  induction scope with
  | nil => exact lexesAs_identifier hid
  | cons outer scope ih =>
    obtain ⟨houter, hscope⟩ := List.forall_mem_cons.mp hscope
    have hcolons : LexesAs A anything "::".toList [.symbol "::"] := lexesAs_closed (by decide)
    have hword := (lexesAs_identifier houter).append_of_ne_nil hcolons (by simp)
      ((follows_cons _ _ _).mpr (continuesWord_of_ascii (by decide)))
    have htail := hword.append_any (ih hid hscope)
    simpa [Name.qualified, Name.tokens, String.toList_append] using htail

/-- A keyword of one word or more. -/
theorem lexesAs_words (s : String) (more : List String) (hs : A.isIdentifier s)
    (hmore : ∀ t ∈ more, A.isIdentifier t) :
    LexesAs A A.endsWord (" ".intercalate (s :: more)).toList ((s :: more).map .word) := by
  induction more generalizing s with
  | nil => simpa using lexesAs_identifier hs
  | cons t more ih =>
    obtain ⟨ht, hmore⟩ := List.forall_mem_cons.mp hmore
    have hword := (lexesAs_identifier hs).append_of_ne_nil lexesAs_blank (by simp)
      ((follows_cons _ _ _).mpr (continuesWord_of_ascii (by decide)))
    have := hword.append_any (ih t ht hmore)
    simpa [String.intercalate_cons_cons, String.toList_append] using this

/-- The words of a built-in type. -/
def Primitive.words : Primitive → List String
  | void => ["void"]
  | bool => ["bool"]
  | char => ["char"]
  | short => ["short"]
  | int => ["int"]
  | long => ["long"]
  | longLong => ["long", "long"]
  | unsignedChar => ["unsigned", "char"]
  | unsignedShort => ["unsigned", "short"]
  | unsignedInt => ["unsigned", "int"]
  | unsignedLong => ["unsigned", "long"]
  | unsignedLongLong => ["unsigned", "long", "long"]
  | float => ["float"]
  | double => ["double"]
  | sizeT => ["size_t"]

/-- The words that built-in types are made of. -/
def typeWords : List String :=
  ["void", "bool", "char", "short", "int", "long", "unsigned", "float", "double", "size_t"]

theorem words_subset_typeWords (p : Primitive) : p.words ⊆ typeWords := by
  cases p <;> decide

theorem isIdentifier_of_mem_typeWords {s : String} (h : s ∈ typeWords) : A.isIdentifier s := by
  have hall : ∀ s ∈ typeWords, A.isIdentifier s := by
    simp only [typeWords, List.forall_mem_cons]
    exact ⟨rfl, rfl, rfl, rfl, rfl, rfl, rfl, rfl, rfl, rfl, by simp⟩
  exact hall s h

theorem lexesAs_keyword (p : Primitive) :
    LexesAs A A.endsWord p.keyword.toList (p.words.map .word) := by
  have hwords : ∀ s ∈ p.words, A.isIdentifier s := fun s hs =>
    isIdentifier_of_mem_typeWords (words_subset_typeWords p hs)
  have hkeyword : p.keyword = " ".intercalate p.words := by cases p <;> rfl
  rw [hkeyword]
  cases hw : p.words with
  | nil => cases p <;> simp [Primitive.words] at hw
  | cons s more =>
    rw [hw] at hwords
    obtain ⟨hs, hmore⟩ := List.forall_mem_cons.mp hwords
    exact lexesAs_words s more hs hmore

/-! ### Array bounds -/

theorem isNumber_of_digits {s : List Char} (hne : s ≠ []) (h : ∀ c ∈ s, c.isDigit = true) :
    A.isNumber s = true := by
  obtain ⟨c, cs, rfl⟩ := List.exists_cons_of_ne_nil hne
  obtain ⟨hc, hcs⟩ := List.forall_mem_cons.mp h
  have htail : numberTail A cs = cs := by
    clear h hne
    induction cs with
    | nil => rfl
    | cons d cs ih =>
      obtain ⟨hd, hcs⟩ := List.forall_mem_cons.mp hcs
      have hcont : A.continuesWord d = true := by simp [Alphabet.continuesWord, hd]
      have hletter : d ≠ 'e' ∧ d ≠ 'E' ∧ d ≠ 'p' ∧ d ≠ 'P' := by
        refine ⟨?_, ?_, ?_, ?_⟩ <;> rintro rfl <;> revert hd <;> decide
      have htail := ih hcs
      cases cs with
      | nil => simp [numberTail, hcont]
      | cons e cs => simp [numberTail, hcont, hletter, htail]
  simp [Alphabet.isNumber, startsWord_of_isDigit hc, startsNumber, hc, htail]

/-- The tokens of an array bound. -/
def boundTokens : Option Nat → List Token
  | some n => [⟨.number, (toString n).toList⟩]
  | none => []

theorem whole_boundText (b : Option Nat) :
    Whole A (Ty.boundText b) ∧ A.tokens (Ty.boundText b) = boundTokens b := by
  cases b with
  | none => exact ⟨whole_empty, rfl⟩
  | some n =>
    have hdigits : (toString n).toList = Nat.toDigits 10 n := by
      simp [toString, Nat.repr, String.toList_ofList]
    have hnum : A.isNumber (toString n).toList = true := by
      rw [hdigits]
      apply isNumber_of_digits Nat.toDigits_ne_nil
      intro c hc
      exact Nat.isDigit_of_mem_toDigits (by decide) (by decide) hc
    have h := lexesAs_number hnum
    exact ⟨h.whole fun _ hc => hc, h.lex_eq⟩

/-! ### Declarators -/

/-- What a declarator under construction keeps: it is whole, and where it stands directly behind the
specifier it starts with a bracket. -/
structure DeclaratorFits (A : Alphabet) (rest : String) (suffixed : Bool) : Prop where
  whole : Whole A rest
  start : suffixed = true → Follows (· ∈ ['(', '[']) rest.toList

theorem declaratorFits_empty (suffixed : Bool) : DeclaratorFits A "" suffixed :=
  ⟨whole_empty, fun _ => follows_nil _⟩

/-- The tokens `ts`, between parentheses if `b` holds. -/
def parenthesizeTokens (b : Bool) (ts : List Token) : List Token :=
  if b then [.symbol "("] ++ ts ++ [.symbol ")"] else ts

theorem follows_dividers_of_start {s : List Char} (h : Follows (· ∈ ['(', '[']) s) :
    Follows (· ∈ dividers) s :=
  h.mono (List.all_iff_forall_prop.mp (by decide))

namespace DeclaratorFits

variable {rest : String} {suffixed : Bool}

/-- A mark joins the declarator behind it. -/
theorem mark_append (h : DeclaratorFits A rest suffixed) {mark : String} (hm : Whole A mark) :
    let part :=
      if rest.isEmpty then mark else if suffixed then mark ++ rest else mark ++ " " ++ rest
    Whole A part ∧ A.tokens part = A.tokens mark ++ A.tokens rest := by
  -- behind the mark stands nothing, a bracket or a blank
  by_cases hempty : rest.isEmpty = true
  · have : A.tokens rest = [] := by rw [String.isEmpty_iff.mp hempty]; rfl
    simpa [hempty, this] using hm
  · cases suffixed with
    | true =>
      have hd := follows_dividers_of_start (h.start rfl)
      simpa [hempty] using ⟨hm.append h.whole hd, hm.tokens_append hd⟩
    | false =>
      obtain ⟨hw, ht⟩ := lexesAs_blank.whole_append h.whole
      have hd : Follows (· ∈ dividers) (" " ++ rest).toList := by
        rw [String.toList_append]
        exact (follows_cons _ _ _).mpr (by decide)
      have := And.intro (hm.append hw hd) (hm.tokens_append hd)
      rw [ht, List.nil_append] at this
      simpa [hempty, String.append_assoc] using this

/-- A pointer or reference layer. -/
theorem marked (h : DeclaratorFits A rest suffixed) {mark : String} (hm : Whole A mark)
    (grouped : Bool) :
    DeclaratorFits A (Ty.markedDeclarator mark rest suffixed grouped) false ∧
      A.tokens (Ty.markedDeclarator mark rest suffixed grouped) =
        parenthesizeTokens grouped (A.tokens mark ++ A.tokens rest) := by
  obtain ⟨hw, ht⟩ := h.mark_append hm
  cases grouped with
  | false => exact ⟨⟨hw, fun hf => absurd hf Bool.false_ne_true⟩, ht⟩
  | true =>
    obtain ⟨hw', ht'⟩ := hw.bracketed (l := "(") (r := ")") (by decide) (by decide)
      ((follows_cons _ _ _).mpr (by decide))
    exact ⟨⟨hw', fun hf => absurd hf Bool.false_ne_true⟩, ht'.trans (by rw [ht]; rfl)⟩

/-- A layer that is written as a suffix, an array or a function. -/
theorem suffixed_append (h : DeclaratorFits A rest suffixed) {l r s : String}
    (hl : isClosed l.toList = true) (hr : isClosed r.toList = true)
    (hstart : Follows (· ∈ ['(', '[']) l.toList) (hne : l.toList ≠ [])
    (hend : Follows (· ∈ dividers) r.toList) (hs : Whole A s) :
    DeclaratorFits A (rest ++ l ++ s ++ r) (suffixed || rest.isEmpty) ∧
      A.tokens (rest ++ l ++ s ++ r) =
        A.tokens rest ++ ([.symbol l] ++ A.tokens s ++ [.symbol r]) := by
  obtain ⟨hw, ht⟩ := hs.bracketed hl hr hend
  have hlsr : Follows (· ∈ ['(', '[']) (l ++ s ++ r).toList := by
    rw [String.append_assoc, String.toList_append]
    exact hstart.append_left hne _
  have hassoc : rest ++ l ++ s ++ r = rest ++ (l ++ s ++ r) := by simp [String.append_assoc]
  rw [hassoc, ← ht]
  have hd := follows_dividers_of_start hlsr
  refine ⟨⟨h.whole.append hw hd, fun hsuf => ?_⟩, h.whole.tokens_append hd⟩
  rw [String.toList_append]
  -- the declarator starts like this suffix if it is the first, and like before if not
  by_cases hempty : rest = ""
  · subst hempty
    exact hlsr
  · have hsuf' : suffixed = true := by simpa [String.isEmpty_iff, hempty] using hsuf
    exact (h.start hsuf').append_left (by simpa [String.toList_eq_nil_iff] using hempty) _

end DeclaratorFits

/-! ### Type-ids -/

/-- The tokens of the pieces of a type-id, one after another. -/
def TypeId.tokens (A : Alphabet) (t : TypeId) : List Token := t.pieces.flatMap A.tokens

/-- What a type-id keeps: its specifier ends like a word, and its declarator fits behind it. -/
structure TypeId.Fits (A : Alphabet) (t : TypeId) : Prop where
  specifier : LexesAs A A.endsWord t.specifier.toList (A.tokens t.specifier)
  declarator : DeclaratorFits A t.declarator t.suffixed

/-- The `const` in front of a specifier. -/
def constTokens (isConst : Bool) : List Token := if isConst then [.word "const"] else []

theorem lexesAs_const (isConst : Bool) :
    LexesAs A anything (if isConst then "const " else "").toList (constTokens isConst) := by
  cases isConst with
  | false => exact LexesAs.nil
  | true =>
    have hconst : A.isIdentifier "const" := rfl
    exact (lexesAs_identifier hconst).append_of_ne_nil lexesAs_blank (by simp)
      ((follows_cons _ _ _).mpr (continuesWord_of_ascii (by decide)))

namespace TypeId

variable {t : TypeId}

theorem tokens_eq (t : TypeId) :
    t.tokens A = constTokens t.isConst ++ A.tokens t.specifier ++ A.tokens t.declarator := by
  obtain ⟨isConst, specifier, declarator, suffixed⟩ := t
  have hconst : A.tokens "const " = [.word "const"] := (lexesAs_const true).lex_eq
  have hblank : A.tokens " " = [] := lexesAs_blank.lex_eq
  by_cases hempty : declarator = ""
  · subst hempty
    have : A.tokens "" = [] := rfl
    cases isConst <;> simp [tokens, pieces, constTokens, hconst, this]
  · cases isConst <;> cases suffixed <;>
      simp [tokens, pieces, constTokens, String.isEmpty_iff, hempty, hconst, hblank]

/-- The text of a type-id falls into the tokens of its pieces. -/
theorem Fits.lexesAs_text (h : t.Fits A) :
    LexesAs A (· ∈ dividers) t.text.toList (t.tokens A) := by
  rw [tokens_eq]
  obtain ⟨isConst, specifier, declarator, suffixed⟩ := t
  obtain ⟨hspec, hdecl⟩ := h
  have htext : (TypeId.mk isConst specifier declarator suffixed).text =
      (if isConst then "const " else "") ++ specifier ++
        (if declarator.isEmpty then ""
          else if suffixed then declarator else " " ++ declarator) := by
    simp only [text, pieces]
    cases isConst <;> cases suffixed <;> by_cases hempty : declarator.isEmpty = true <;>
      simp [hempty, String.append_assoc]
  rw [htext, String.toList_append, String.toList_append]
  have hfront := (lexesAs_const isConst).append_any hspec
  by_cases hempty : declarator.isEmpty = true
  · have : A.tokens declarator = [] := by rw [String.isEmpty_iff.mp hempty]; rfl
    simpa [hempty, this] using hfront.mono fun _ hc => endsWord_of_mem_dividers hc
  · have hne : declarator ≠ "" := by simpa [String.isEmpty_iff] using hempty
    cases suffixed with
    | true =>
      have hstart := (follows_dividers_of_start (hdecl.start rfl)).mono fun _ =>
        endsWord_of_mem_dividers (A := A)
      simpa [hempty] using hfront.append_of_ne_nil hdecl.whole
        (by simpa [String.toList_eq_nil_iff] using hne) hstart
    | false =>
      have := hfront.append_of_ne_nil (lexesAs_blank.append_any hdecl.whole) (by simp)
        ((follows_cons _ _ _).mpr (endsWord_of_mem_dividers (by decide)))
      simpa [hempty, String.toList_append] using this

end TypeId

/-! ### Types -/

/-- The text of joined parameters falls into their tokens, joined by commas. -/
theorem whole_intercalate (ts : List Ty)
    (h : ∀ t ∈ ts, LexesAs A (· ∈ dividers) t.text.toList (t.typeId.tokens A)) :
    Whole A (", ".intercalate (Ty.paramTexts ts)) ∧
      A.tokens (", ".intercalate (Ty.paramTexts ts)) =
        [Token.symbol ","].intercalate (ts.map fun t => t.typeId.tokens A) := by
  suffices hlex : LexesAs A (· ∈ dividers) (", ".intercalate (Ty.paramTexts ts)).toList
      ([Token.symbol ","].intercalate (ts.map fun t => t.typeId.tokens A)) from
    ⟨hlex.whole fun _ hc => hc, hlex.lex_eq⟩
  induction ts with
  | nil => exact LexesAs.nil
  | cons t ts ih =>
    obtain ⟨ht, hts⟩ := List.forall_mem_cons.mp h
    cases ts with
    | nil => simpa [Ty.paramTexts, List.intercalate, Ty.text, Ty.typeId] using ht
    | cons u us =>
      have htail := lexesAs_comma.append_any (ih hts)
      have := ht.append_of_ne_nil htail (by simp) ((follows_cons _ _ _).mpr (by decide))
      simpa [Ty.paramTexts, List.intercalate_cons_cons, String.intercalate_cons_cons,
        String.toList_append, Ty.text, Ty.typeId] using this

theorem whole_pointerMark (isConst : Bool) :
    Whole A (Ty.pointerMark isConst) ∧
      A.tokens (Ty.pointerMark isConst) = .symbol "*" :: constTokens isConst := by
  have hstar : LexesAs A (fun c => isExtendedBy ['*'] c = false) "*".toList [.symbol "*"] :=
    lexesAs_symbol (by decide)
  have h : LexesAs A (· ∈ dividers) (Ty.pointerMark isConst).toList
      (.symbol "*" :: constTokens isConst) := by
    cases isConst with
    | false => exact hstar.mono (isExtendedBy_divider (by decide))
    | true =>
      have hconst : A.isIdentifier "const" := rfl
      have := hstar.append_of_ne_nil (lexesAs_blank.append_any (lexesAs_identifier hconst))
        (by simp)
        ((follows_cons _ _ _).mpr (by decide))
      exact this.mono fun _ hc => endsWord_of_mem_dividers hc
  exact ⟨h.whole fun _ hc => hc, h.lex_eq⟩

theorem whole_referenceMark : Whole A "&" ∧ A.tokens "&" = [.symbol "&"] := by
  have h : LexesAs A (· ∈ dividers) "&".toList [.symbol "&"] :=
    (lexesAs_symbol (by decide)).mono (isExtendedBy_divider (by decide))
  exact ⟨h.whole fun _ hc => hc, h.lex_eq⟩

namespace Ty

/-- An array layer around a declarator. -/
theorem fits_array {rest : String} {suffixed : Bool} (h : DeclaratorFits A rest suffixed)
    (b : Option Nat) :
    DeclaratorFits A (rest ++ "[" ++ boundText b ++ "]") (suffixed || rest.isEmpty) ∧
      A.tokens (rest ++ "[" ++ boundText b ++ "]") =
        A.tokens rest ++ ([.symbol "["] ++ boundTokens b ++ [.symbol "]"]) := by
  obtain ⟨hw, ht⟩ := whole_boundText (A := A) b
  have := h.suffixed_append (l := "[") (r := "]") (by decide) (by decide)
    ((follows_cons _ _ _).mpr (by decide)) (by simp) ((follows_cons _ _ _).mpr (by decide)) hw
  rwa [ht] at this

/-- A function layer around a declarator. -/
theorem fits_function {rest : String} {suffixed : Bool} (h : DeclaratorFits A rest suffixed)
    (ts : List Ty) (hts : ∀ t ∈ ts, LexesAs A (· ∈ dividers) t.text.toList (t.typeId.tokens A)) :
    DeclaratorFits A (rest ++ "(" ++ ", ".intercalate (paramTexts ts) ++ ")")
        (suffixed || rest.isEmpty) ∧
      A.tokens (rest ++ "(" ++ ", ".intercalate (paramTexts ts) ++ ")") = A.tokens rest ++
        ([.symbol "("] ++ [Token.symbol ","].intercalate (ts.map fun t => t.typeId.tokens A) ++
          [.symbol ")"]) := by
  obtain ⟨hw, ht⟩ := whole_intercalate ts hts
  have := h.suffixed_append (l := "(") (r := ")") (by decide) (by decide)
    ((follows_cons _ _ _).mpr (by decide)) (by simp) ((follows_cons _ _ _).mpr (by decide)) hw
  rwa [ht] at this

/-- Every layer of a type keeps a type-id fit. -/
theorem typeIdAround_fits (t : Ty) (hn : ∀ d ∈ t.decls, A.isName d.name) (rest : String)
    (suffixed : Bool) (h : DeclaratorFits A rest suffixed) :
    (t.typeIdAround rest suffixed).Fits A := by
  induction t generalizing rest suffixed with
  | primitive p c =>
    have hk := lexesAs_keyword (A := A) p
    exact ⟨by rw [typeIdAround, Alphabet.tokens, hk.lex_eq]; exact hk, h⟩
  | named d c =>
    have hq := lexesAs_qualified (hn d (by simp [decls]))
    exact ⟨by rw [typeIdAround, Alphabet.tokens, hq.lex_eq]; exact hq, h⟩
  | pointer t c ih =>
    -- the type inside is written around the larger declarator
    exact ih (by simpa [decls] using hn) _ _ (h.marked (whole_pointerMark c).1 _).1
  | reference t c ih =>
    exact ih (by simpa [decls] using hn) _ _ (h.marked whole_referenceMark.1 _).1
  | array t b c ih => exact ih (by simpa [decls] using hn) _ _ (fits_array h b).1
  | function r ps c ihr ihps =>
    simp only [decls, List.mem_append, mem_declsOfEach] at hn
    refine ihr (fun d hd => hn d (Or.inl hd)) _ _ (fits_function h ps fun t ht => ?_).1
    -- a parameter is a type-id of its own
    have hfits := ihps t ht (fun d hd => hn d (Or.inr ⟨t, ht, hd⟩)) "" false
      (declaratorFits_empty _)
    exact hfits.lexesAs_text

/-- The text of a type falls into the tokens of its pieces. -/
theorem lexesAs_text (t : Ty) (hn : ∀ d ∈ t.decls, A.isName d.name) :
    LexesAs A (· ∈ dividers) t.text.toList (t.typeId.tokens A) :=
  (t.typeIdAround_fits hn "" false (declaratorFits_empty _)).lexesAs_text

end Ty

end ExprEmit
