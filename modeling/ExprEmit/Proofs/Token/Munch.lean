import ExprEmit.Proofs.Token.Basic
import Mathlib.Data.Bool.AllAny
import Mathlib.Data.List.Basic

/-!
# Longest match, one token at a time

`LexesAs A P s ts` says that the text `s` falls into the tokens `ts` whatever follows it, as long as
that starts with a character of `P`.  Such facts chain (`LexesAs.append`), and each sort of token
has one: `lexesAs_word`, `lexesAs_number`, `lexesAs_quoted` and `lexesAs_symbol` say what may follow
without being drawn into the token.
-/

namespace ExprEmit

variable {A : Alphabet}

/-! ### What follows -/

/-- Whether the text `rest` is empty or starts with a character of `P`. -/
def Follows (P : Char → Prop) (rest : List Char) : Prop := ∀ c ∈ rest.head?, P c

@[simp] theorem follows_nil (P : Char → Prop) : Follows P [] := by simp [Follows]

@[simp] theorem follows_cons (P : Char → Prop) (c : Char) (rest : List Char) :
    Follows P (c :: rest) ↔ P c := by
  simp [Follows]

theorem Follows.mono {P Q : Char → Prop} (h : ∀ c, P c → Q c) {rest : List Char}
    (hr : Follows P rest) : Follows Q rest :=
  fun c hc => h c (hr c hc)

theorem Follows.append_left {P : Char → Prop} {s : List Char} (hs : Follows P s) (hne : s ≠ [])
    (rest : List Char) : Follows P (s ++ rest) := by
  cases s with
  | nil => exact absurd rfl hne
  | cons c cs => simpa using hs

/-- The characters that belong to no token but their own: a blank, a comma and brackets. -/
def dividers : List Char := [' ', ',', '(', ')', '[', ']']

/-- Every character. -/
def anything (_ : Char) : Prop := True

/-- The characters that end a word. -/
def Alphabet.endsWord (A : Alphabet) (c : Char) : Prop := A.continuesWord c = false

/-! ### One token -/

theorem lexFrom_append (s rest : List Char) :
    lexFrom A s.length (s ++ rest) = lex A rest := by
  induction s with
  | nil => rfl
  | cons c s ih => exact ih

@[simp] theorem lex_nil : lex A [] = [] := rfl

theorem lex_blank {c : Char} (hc : c ∈ blanks) (rest : List Char) :
    lex A (c :: rest) = lex A rest := by
  simp [lex, lexFrom, hc]

/-- A token is taken from the front of a text if it is the longest one there. -/
theorem lex_of_munch {c : Char} {cs rest : List Char} {t : Token} (hc : c ∉ blanks)
    (h : munch A c (cs ++ rest) = t) (ht : t.chars = c :: cs) :
    lex A (c :: cs ++ rest) = t :: lex A rest := by
  -- the first character is gone, the others of the token are skipped
  have hskip : (munch A c (cs ++ rest)).chars.length - 1 = cs.length := by rw [h, ht]; rfl
  rw [List.cons_append, lex, lexFrom, hskip, lexFrom_append, h]
  simp [hc]

/-! ### Texts before a boundary -/

/-- The text `s` falls into the tokens `ts` before everything that starts with a character of `P`.
-/
def LexesAs (A : Alphabet) (P : Char → Prop) (s : List Char) (ts : List Token) : Prop :=
  ∀ rest, Follows P rest → lex A (s ++ rest) = ts ++ lex A rest

namespace LexesAs

variable {P Q : Char → Prop} {s t : List Char} {ts us : List Token}

theorem lex_eq (h : LexesAs A P s ts) : lex A s = ts := by
  simpa using h [] (follows_nil P)

theorem nil : LexesAs A P [] [] := fun _ _ => rfl

theorem mono (h : LexesAs A P s ts) (hPQ : ∀ c, Q c → P c) : LexesAs A Q s ts :=
  fun rest hr => h rest (hr.mono hPQ)

/-- Two texts join if the second one, with what follows it, ends the first. -/
theorem append (hs : LexesAs A P s ts) (ht : LexesAs A Q t us)
    (h : ∀ rest, Follows Q rest → Follows P (t ++ rest)) : LexesAs A Q (s ++ t) (ts ++ us) := by
  intro rest hr
  rw [List.append_assoc, hs _ (h rest hr), ht rest hr, List.append_assoc]

theorem append_any (hs : LexesAs A anything s ts) (ht : LexesAs A Q t us) :
    LexesAs A Q (s ++ t) (ts ++ us) :=
  hs.append ht fun _ _ _ _ => trivial

theorem append_of_ne_nil (hs : LexesAs A P s ts) (ht : LexesAs A Q t us) (hne : t ≠ [])
    (h : Follows P t) : LexesAs A Q (s ++ t) (ts ++ us) :=
  hs.append ht fun rest _ => h.append_left hne rest

end LexesAs

/-- A blank is no token. -/
theorem lexesAs_blank : LexesAs A anything " ".toList [] := by
  intro rest _
  exact lex_blank (by decide) rest

/-! ### Words -/

theorem takeWhile_append_of_follows {p : Char → Bool} {s rest : List Char} (hs : s.all p = true)
    (hr : Follows (fun c => p c = false) rest) : (s ++ rest).takeWhile p = s := by
  rw [List.takeWhile_append_of_pos (by simpa using hs)]
  cases rest with
  | nil => simp
  | cons c rest => simp [(follows_cons _ _ _).mp hr]

theorem startsWord_of_ascii {c : Char} (hc : c.toNat ≤ 127) :
    A.startsWord c = (c.isAlpha || c == '_') := by
  have : ¬ 127 < c.toNat := by omega
  simp [Alphabet.startsWord, this]

theorem continuesWord_of_ascii {c : Char} (hc : c.toNat ≤ 127) :
    A.continuesWord c = (c.isAlpha || c == '_' || c.isDigit) := by
  have : ¬ 127 < c.toNat := by omega
  simp [Alphabet.continuesWord, startsWord_of_ascii hc, this]

theorem startsWord_of_isDigit {c : Char} (h : c.isDigit = true) : A.startsWord c = false := by
  obtain ⟨hlo, hhi⟩ := Char.isDigit_iff_toNat.mp h
  simp only [Char.reduceToNat] at hlo hhi
  have hall : ∀ n < 58, 48 ≤ n → ((Char.ofNat n).isAlpha || Char.ofNat n == '_') = false := by
    decide
  rw [startsWord_of_ascii (by omega), ← Char.ofNat_toNat c]
  exact hall c.toNat (by omega) hlo

theorem not_mem_blanks_of_startsWord {c : Char} (h : A.startsWord c = true) : c ∉ blanks := by
  intro hc
  have hs : ∀ d ∈ blanks, d.toNat ≤ 127 ∧ (d.isAlpha || d == '_') = false :=
    List.all_iff_forall_prop.mp (by decide)
  rw [startsWord_of_ascii (hs c hc).1, (hs c hc).2] at h
  exact Bool.false_ne_true h

/-- Whether a text is a single word. -/
def Alphabet.isWord (A : Alphabet) : List Char → Bool
  | [] => false
  | c :: cs => A.startsWord c && cs.all A.continuesWord

theorem lexesAs_word {s : List Char} (h : A.isWord s = true) :
    LexesAs A A.endsWord s [⟨.word, s⟩] := by
  cases s with
  | nil => simp [Alphabet.isWord] at h
  | cons c cs =>
    simp only [Alphabet.isWord, Bool.and_eq_true] at h
    intro rest hr
    refine lex_of_munch (not_mem_blanks_of_startsWord h.1) ?_ rfl
    simp only [munch, h.1, if_true, takeWhile_append_of_follows h.2 hr]

/-! ### Numbers -/

/-- A divider continues neither a word nor a number. -/
theorem dividers_spec : ∀ c ∈ dividers, c.toNat ≤ 127 ∧
    (c.isAlpha || c == '_' || c.isDigit) = false ∧ c ≠ '.' ∧ c ≠ '\'' ∧ c ≠ '+' ∧ c ≠ '-' ∧
      c ≠ 'e' ∧ c ≠ 'E' ∧ c ≠ 'p' ∧ c ≠ 'P' :=
  List.all_iff_forall_prop.mp (by decide)

theorem endsWord_of_mem_dividers {c : Char} (h : c ∈ dividers) : A.endsWord c := by
  rw [Alphabet.endsWord, continuesWord_of_ascii (dividers_spec c h).1]
  exact (dividers_spec c h).2.1

theorem numberTail_of_follows {rest : List Char} (h : Follows (· ∈ dividers) rest) :
    numberTail A rest = [] := by
  match rest with
  | [] => rfl
  | [c] =>
    have hc := (follows_cons _ _ _).mp h
    have hw := endsWord_of_mem_dividers (A := A) hc
    rw [Alphabet.endsWord] at hw
    simp [numberTail, hw, dividers_spec c hc]
  | c :: d :: rest =>
    have hc := (follows_cons _ _ _).mp h
    have hw := endsWord_of_mem_dividers (A := A) hc
    rw [Alphabet.endsWord] at hw
    simp [numberTail, hw, dividers_spec c hc]

/-- Whether a text is a single number. -/
def Alphabet.isNumber (A : Alphabet) : List Char → Bool
  | [] => false
  | c :: cs => !A.startsWord c && startsNumber c cs && numberTail A cs == cs

/-- A number that is whole by itself is whole before a divider. -/
theorem numberTail_append {cs rest : List Char} (h : numberTail A cs = cs)
    (hr : Follows (· ∈ dividers) rest) : numberTail A (cs ++ rest) = cs := by
  -- a divider ends the number wherever `numberTail` stands, and it is no sign of an exponent
  fun_induction numberTail A cs with
  | case1 => exact numberTail_of_follows hr
  | case2 c hc =>
    cases rest with
    | nil => simp [numberTail, hc]
    | cons d rest =>
      have hd := dividers_spec d ((follows_cons _ _ _).mp hr)
      simp only [List.singleton_append, numberTail, numberTail_of_follows hr]
      simp [hd, hc]
  | case3 => simp at h
  | case4 c d cs hs ih => simp_all [numberTail]
  | case5 c d cs hs hc ih =>
    simp only [List.cons.injEq, true_and] at h
    have := ih h
    simp_all [numberTail]
  | case6 => simp at h

theorem startsNumber_append {c : Char} {cs : List Char} (h : startsNumber c cs = true)
    (rest : List Char) : startsNumber c (cs ++ rest) = true := by
  cases cs with
  | nil => simp_all [startsNumber]
  | cons d cs => exact h

theorem not_mem_blanks_of_startsNumber {c : Char} {cs : List Char}
    (h : startsNumber c cs = true) : c ∉ blanks := by
  intro hc
  have hs : ∀ d ∈ blanks, (d.isDigit || d == '.') = false :=
    List.all_iff_forall_prop.mp (by decide)
  have := hs c hc
  simp_all [startsNumber]

theorem lexesAs_number {s : List Char} (h : A.isNumber s = true) :
    LexesAs A (· ∈ dividers) s [⟨.number, s⟩] := by
  cases s with
  | nil => simp [Alphabet.isNumber] at h
  | cons c cs =>
    simp only [Alphabet.isNumber, Bool.and_eq_true, beq_iff_eq, Bool.not_eq_true'] at h
    obtain ⟨⟨hw, hn⟩, ht⟩ := h
    intro rest hr
    refine lex_of_munch (not_mem_blanks_of_startsNumber hn) ?_ rfl
    simp [munch, hw, startsNumber_append hn, numberTail_append ht hr]

/-! ### Quoted literals -/

/-- Whether a text can stand between the quotes `q`: it has no quote `q` that is not escaped, no
line break, and no backslash at its end that would escape the closing quote. -/
def isQuotable (q : Char) : List Char → Bool
  | [] => true
  | ['\\'] => false
  | '\\' :: c :: rest => !isLineBreak c && isQuotable q rest
  | c :: rest => c != q && !isLineBreak c && isQuotable q rest

theorem quotedTail_append {q : Char} (hq : q ≠ '\\') {body : List Char}
    (h : isQuotable q body = true) (rest : List Char) :
    quotedTail q (body ++ q :: rest) = some (body ++ [q]) := by
  fun_induction isQuotable q body with
  | case1 => simp [quotedTail, hq]
  | case2 => simp at h
  | case3 c body ih =>
    simp only [Bool.and_eq_true, Bool.not_eq_true'] at h
    simp [quotedTail, h.1, ih h.2]
  | case4 c body h₁ h₂ ih =>
    simp only [Bool.and_eq_true, Bool.not_eq_true', bne_iff_ne, ne_eq] at h
    -- the cases before this one are those of a backslash
    have hc : c ≠ '\\' := by
      rintro rfl
      cases body with
      | nil => exact h₁ rfl rfl
      | cons d body => exact h₂ d body rfl rfl
    simp [quotedTail, hc, h.1.1, h.1.2, ih h.2]

theorem lexesAs_quoted {q : Char} (hq : q = '"' ∨ q = '\'') {body : List Char}
    (h : isQuotable q body = true) :
    LexesAs A anything (q :: (body ++ [q])) [⟨.quoted, q :: (body ++ [q])⟩] := by
  intro rest _
  have hw : A.startsWord q = false := by
    rcases hq with rfl | rfl <;> exact startsWord_of_ascii (by decide)
  have hn : ∀ cs, startsNumber q cs = false := by
    rcases hq with rfl | rfl <;> exact fun _ => rfl
  refine lex_of_munch (by rcases hq with rfl | rfl <;> decide) ?_ rfl
  have hne : q ≠ '\\' := by rcases hq with rfl | rfl <;> decide
  have ht := quotedTail_append hne h rest
  simp [munch, hw, hn, hq, ht]

/-! ### Symbols -/

/-- Whether a longer token than the symbol `s` may start with `s` and `c`. -/
def isExtendedBy (s : List Char) (c : Char) : Bool :=
  symbols.any (fun t => (s ++ [c]).isPrefixOf t) || (s == ['.'] && c.isDigit)

/-- What no symbol starts with is no longer token. -/
theorem isExtendedBy_eq_false {s : List Char} {c : Char}
    (htable : ∀ t ∈ symbols, ¬s ++ [c] <+: t) (hnumber : s ≠ ['.'] ∨ c.isDigit = false) :
    isExtendedBy s c = false := by
  rw [isExtendedBy, Bool.or_eq_false_iff, List.any_eq_false]
  constructor
  · intro t ht
    rw [List.isPrefixOf_iff_prefix]
    exact htable t ht
  · rcases hnumber with h | h <;> simp [h]

/-- The table of symbols has the longer ones first. -/
theorem pairwise_symbols : symbols.Pairwise fun s t => t.length ≤ s.length := by
  decide

theorem ne_nil_of_mem_symbols {s : List Char} (hs : s ∈ symbols) : s ≠ [] := by
  have : [] ∉ symbols := by decide
  rintro rfl
  exact this hs

/-- No symbol contains a blank, or a character that another sort of token starts with. -/
theorem flatten_symbols_spec : ∀ c ∈ symbols.flatten, c ∉ blanks ∧ c.toNat ≤ 127 ∧
    (c.isAlpha || c == '_') = false ∧ c.isDigit = false ∧ c ≠ '"' ∧ c ≠ '\'' :=
  List.all_iff_forall_prop.mp (by decide)

theorem symbols_spec {s : List Char} (hs : s ∈ symbols) {c : Char} (hc : c ∈ s) :
    c ∉ blanks ∧ c.toNat ≤ 127 ∧ (c.isAlpha || c == '_') = false ∧ c.isDigit = false ∧
      c ≠ '"' ∧ c ≠ '\'' :=
  flatten_symbols_spec c (List.mem_flatten_of_mem hs hc)

/-- The first symbol of the table that the text starts with is the one it was made with. -/
theorem find?_symbols {s rest : List Char} (hs : s ∈ symbols)
    (hr : Follows (fun c => isExtendedBy s c = false) rest) :
    symbols.find? (·.isPrefixOf (s ++ rest)) = some s := by
  rw [List.find?_eq_some_iff_append]
  refine ⟨by simp, ?_⟩
  obtain ⟨before, after, hsplit, hfirst⟩ := List.eq_append_cons_of_mem hs
  refine ⟨before, after, hsplit, fun t ht => ?_⟩
  have hpair := pairwise_symbols
  rw [hsplit, List.pairwise_append] at hpair
  have hlen : s.length ≤ t.length := hpair.2.2 t ht s List.mem_cons_self
  have htmem : t ∈ symbols := by rw [hsplit]; exact List.mem_append_left _ ht
  have hne : t ≠ s := by rintro rfl; exact hfirst ht
  rw [Bool.not_eq_true', ← Bool.not_eq_true, List.isPrefixOf_iff_prefix]
  intro hpre
  -- `t` and `s` start the same text, and `t` is no shorter, so `t` goes on behind `s`
  rcases List.prefix_or_prefix_of_prefix hpre (List.prefix_append s rest) with h | ⟨more, rfl⟩
  · exact hne (h.eq_of_length_le hlen)
  · cases more with
    | nil => simp at hne
    | cons c more =>
      obtain ⟨rest', hrest⟩ := (List.prefix_append_right_inj s).mp hpre
      rw [← hrest, List.cons_append, follows_cons] at hr
      have : isExtendedBy s c = true := by
        rw [isExtendedBy, Bool.or_eq_true, List.any_eq_true]
        refine Or.inl ⟨_, htmem, ?_⟩
        rw [List.isPrefixOf_iff_prefix]
        exact ⟨more, by simp⟩
      rw [hr] at this
      exact Bool.false_ne_true this

theorem lexesAs_symbol {s : List Char} (hs : s ∈ symbols) :
    LexesAs A (fun c => isExtendedBy s c = false) s [⟨.symbol, s⟩] := by
  intro rest hr
  have hfind := find?_symbols hs hr
  obtain ⟨c, cs, rfl⟩ := List.exists_cons_of_ne_nil (ne_nil_of_mem_symbols hs)
  obtain ⟨hb, hc, hw, hdigit, hq, hq'⟩ := symbols_spec hs List.mem_cons_self
  refine lex_of_munch hb ?_ rfl
  have hw' : A.startsWord c = false := by rw [startsWord_of_ascii hc, hw]
  -- a point starts a number only in front of a digit, which no symbol contains
  have hn : startsNumber c (cs ++ rest) = false := by
    cases cs with
    | cons d cs =>
      have hd := (symbols_spec hs (c := d) (by simp)).2.2.2.1
      simp [startsNumber, hdigit, hd]
    | nil =>
      rcases rest with _ | ⟨d, rest⟩
      · simp [startsNumber, hdigit]
      · have := (follows_cons _ _ _).mp hr
        simp_all [isExtendedBy, startsNumber]
  rw [List.cons_append] at hfind
  simp [munch, hw', hn, hq, hq', hfind]

/-- Whether `s` is a symbol that no other token starts with. -/
def isClosed (s : List Char) : Bool :=
  symbols.contains s && symbols.all (fun t => !s.isPrefixOf t || t == s) && s != ['.']

theorem lexesAs_closed {s : String} (h : isClosed s.toList = true) :
    LexesAs A anything s.toList [.symbol s] := by
  simp only [isClosed, Bool.and_eq_true, List.contains_iff_mem, List.all_eq_true, Bool.or_eq_true,
    Bool.not_eq_true', beq_iff_eq, bne_iff_ne, ne_eq] at h
  obtain ⟨⟨hs, hall⟩, hdot⟩ := h
  refine (lexesAs_symbol hs).mono fun c _ => ?_
  refine isExtendedBy_eq_false (fun t ht hpre => ?_) (Or.inl hdot)
  rcases hall t ht with hnot | rfl
  · rw [← Bool.not_eq_true, List.isPrefixOf_iff_prefix] at hnot
    exact hnot ((List.prefix_append s.toList [c]).trans hpre)
  · have hlength := hpre.length_le
    rw [List.length_append, List.length_singleton] at hlength
    omega

theorem lexesAs_openParen : LexesAs A anything "(".toList [.symbol "("] :=
  lexesAs_closed (by decide)

theorem lexesAs_closeParen : LexesAs A anything ")".toList [.symbol ")"] :=
  lexesAs_closed (by decide)

/-- No symbol goes on with a divider. -/
theorem isExtendedBy_divider {s : List Char} (hs : s ∈ symbols) :
    ∀ c ∈ dividers, isExtendedBy s c = false := by
  intro c hc
  have htails : ∀ d ∈ dividers, d ∉ (symbols.map List.tail).flatten :=
    List.all_iff_forall_prop.mp (by decide)
  have hdigits : ∀ d ∈ dividers, d.isDigit = false := List.all_iff_forall_prop.mp (by decide)
  obtain ⟨a, as, rfl⟩ := List.exists_cons_of_ne_nil (ne_nil_of_mem_symbols hs)
  refine isExtendedBy_eq_false (fun t ht hpre => ?_) (Or.inr (hdigits c hc))
  -- a divider behind `a` would stand in the tail of `t`
  obtain ⟨more, rfl⟩ := hpre
  apply htails c hc
  exact List.mem_flatten_of_mem (List.mem_map_of_mem ht) (by simp)

/-- No symbol goes on with the start of a word. -/
theorem isExtendedBy_of_startsWord {s : List Char} {c : Char} (hc : A.startsWord c = true) :
    isExtendedBy s c = false := by
  have hdigit : c.isDigit = false := by
    by_contra hd
    rw [startsWord_of_isDigit (by simpa using hd)] at hc
    exact Bool.false_ne_true hc
  refine isExtendedBy_eq_false (fun t ht hpre => ?_) (Or.inr hdigit)
  obtain ⟨-, hascii, hword, -⟩ := symbols_spec ht (c := c) (hpre.subset (by simp))
  rw [startsWord_of_ascii hascii, hword] at hc
  exact Bool.false_ne_true hc

theorem isExtendedBy_of_isDigit {s : List Char} {c : Char} (hs : s ≠ ['.'])
    (hc : c.isDigit = true) : isExtendedBy s c = false := by
  refine isExtendedBy_eq_false (fun t ht hpre => ?_) (Or.inl hs)
  obtain ⟨-, -, -, hdigit, -⟩ := symbols_spec ht (c := c) (hpre.subset (by simp))
  rw [hc] at hdigit
  exact Bool.false_ne_true hdigit.symm

end ExprEmit
