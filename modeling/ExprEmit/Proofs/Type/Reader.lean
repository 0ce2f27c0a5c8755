import ExprEmit.Proofs.Type.Grammar

/-!
# Reading a type-id

`readType` finds the type that a sequence of tokens denotes in one sweep from left to right.  A
declarator is collected in the order in which it will be applied (`Partial`): marks go behind the
marks read so far, a suffix goes in front of the suffixes read so far.

`readType_of_denotes`: whatever type the grammar makes of tokens is the one that is read, if the
declarations in scope are told apart by their names (`Scope`).
-/

namespace ExprEmit

/-! ### Declarations in scope -/

/-- Whether a declaration has a C++ name that is no built-in type. -/
structure TypeDecl.IsNameable (A : Alphabet) (d : TypeDecl) : Prop where
  isName : A.isName d.name
  /-- `const` is a keyword, so it is no part of a name. -/
  notConst : "const" ∉ d.name.identifier :: d.name.scope
  notBuiltIn : d.name.qualified ∉ typeWords

/-- Whether the declarations of a list have C++ names and are told apart by them. -/
structure Scope (A : Alphabet) (decls : List TypeDecl) : Prop where
  nameable : ∀ d ∈ decls, d.IsNameable A
  distinct : ∀ d ∈ decls, ∀ e ∈ decls, d.name.qualified = e.name.qualified → d = e

namespace TypeReader

/-! ### Specifiers -/

/-- The type that the words of a specifier name, but for its `const`. -/
def specified (decls : List TypeDecl) (words : List Token) : Option (Bool → Ty) :=
  match (Keyed.all : List Primitive).find? fun p => p.words.map .word = words with
  | some p => some (.primitive p)
  | none => (decls.find? fun d => d.name.tokens = words).map .named

/-- The type that a specifier names. -/
def specifier (decls : List TypeDecl) (words : List Token) : Option Ty :=
  if words.head? = some (.word "const") then (specified decls words.tail).map (· true)
  else (specified decls words).map (· false)

theorem specified_words (decls : List TypeDecl) (p : Primitive) :
    specified decls (p.words.map .word) = some (.primitive p) := by
  cases p <;> rfl

theorem word_injective {s t : String} (h : Token.word s = Token.word t) : s = t := by
  simpa [Token.word, String.toList_inj] using h

theorem name_tokens_injective {m n : Name} (h : m.tokens = n.tokens) : m = n := by
  obtain ⟨outers, s⟩ := m
  obtain ⟨others, t⟩ := n
  induction outers generalizing others with
  | nil =>
    cases others with
    | nil => simpa [Name.tokens, Token.word, String.toList_inj] using h
    | cons other others => simp [Name.tokens] at h
  | cons outer outers ih =>
    cases others with
    | nil => simp [Name.tokens] at h
    | cons other others =>
      simp only [Name.tokens, List.foldr_cons, List.cons.injEq, true_and] at h
      have := ih others h.2
      simp_all [Token.word, String.toList_inj]

/-- A name that is no built-in type is not spelled like one. -/
theorem words_ne_name {A : Alphabet} {d : TypeDecl} (hd : d.IsNameable A) (p : Primitive) :
    p.words.map .word ≠ d.name.tokens := by
  intro h
  have hspelled : ∀ t ∈ d.name.tokens, ∃ s ∈ p.words, t = .word s := by
    rw [← h]
    intro t ht
    obtain ⟨s, hs, rfl⟩ := List.mem_map.mp ht
    exact ⟨s, hs, rfl⟩
  have hnot := hd.notBuiltIn
  -- a name without a scope is one word, any other has a `::`
  cases hname : d.name with
  | mk scope s =>
    rw [hname] at hspelled hnot
    cases scope with
    | nil =>
      obtain ⟨t, ht, heq⟩ := hspelled (.word s) (by simp [Name.tokens])
      rw [← word_injective heq] at ht
      exact hnot (words_subset_typeWords p ht)
    | cons outer scope =>
      obtain ⟨t, -, heq⟩ := hspelled (.symbol "::") (by simp [Name.tokens])
      simp [Token.word, Token.symbol] at heq

theorem specified_name {A : Alphabet} {decls : List TypeDecl} (hs : Scope A decls) {d : TypeDecl}
    (hd : d ∈ decls) : specified decls d.name.tokens = some (.named d) := by
  have hbuiltin : (Keyed.all : List Primitive).find? (fun p => p.words.map .word = d.name.tokens) =
      none := by
    rw [List.find?_eq_none]
    intro p _ hp
    exact words_ne_name (hs.nameable d hd) p (of_decide_eq_true hp)
  have hfind : decls.find? (fun e => e.name.tokens = d.name.tokens) = some d := by
    cases hfound : decls.find? (fun e => e.name.tokens = d.name.tokens) with
    | none =>
      rw [List.find?_eq_none] at hfound
      exact absurd (decide_eq_true rfl) (hfound d hd)
    | some e =>
      have htokens : e.name.tokens = d.name.tokens := by simpa using List.find?_some hfound
      have hqualified := congrArg Name.qualified (name_tokens_injective htokens)
      rw [hs.distinct e (List.mem_of_find?_eq_some hfound) d hd hqualified]
  rw [specified, hbuiltin, hfind]
  rfl

/-- A specifier behind its `const` names the type. -/
theorem specifier_eq {decls : List TypeDecl} {words : List Token} {make : Bool → Ty}
    (h : specified decls words = some make) (hc : words.head? ≠ some (.word "const")) (c : Bool) :
    specifier decls (constTokens c ++ words) = some (make c) := by
  cases c with
  | false => simp [specifier, constTokens, h, hc]
  | true => simp [specifier, constTokens, h]

/-! ### Declarators -/

/-- A layer that a declarator puts around a type. -/
inductive Layer where
  | pointer (isConst : Bool)
  | reference
  | array (bound : Option Nat)
  | function (params : List Ty)

/-- The type that a layer makes of a type. -/
def Layer.wrap (t : Ty) : Layer → Ty
  | pointer c => .pointer t c
  | reference => t.ref
  | array b => t.arrayOf b
  | function ps => t.functionOf ps

/-- A declarator as far as it has been read, each part in the order in which it is applied. -/
structure Partial where
  marks : List Layer
  /-- What stood between parentheses. -/
  inner : List Layer
  suffixes : List Layer

namespace Partial

/-- The declarator that consists of marks. -/
def ofMarks (marks : List Layer) : Partial := ⟨marks, [], []⟩

/-- The layers of a declarator, in the order in which they are applied. -/
def layers (d : Partial) : List Layer := d.marks ++ d.suffixes ++ d.inner

/-- The type that a declarator makes of a type. -/
def wrap (base : Ty) (d : Partial) : Ty := d.layers.foldl Layer.wrap base

/-- The declarator with one more suffix. -/
def suffixed (d : Partial) (l : Layer) : Partial := { d with suffixes := l :: d.suffixes }

/-- Whether only marks have been read. -/
def isOpen (d : Partial) : Bool := d.inner.isEmpty && d.suffixes.isEmpty

/-- The declarator with its last mark `const`, if that is a pointer. -/
def const? (d : Partial) : Option Partial :=
  match d.marks.getLast?, d.isOpen with
  | some (.pointer false), true => some (ofMarks (d.marks.dropLast ++ [.pointer true]))
  | _, _ => none

end Partial

/-! ### One token after another -/

/-- What is open around the declarator that is read. -/
inductive Frame where
  /-- A parenthesis of the same type-id, behind some marks. -/
  | group (marks : List Layer)
  /-- The parameters `done` of a function, behind the declarator `d` of another type-id. -/
  | params (base : Ty) (d : Partial) (done : List Ty)

/-- How far the reader has come. -/
inductive State where
  /-- In the specifier of a type-id. -/
  | specifier (stack : List Frame) (words : List Token)
  /-- In its declarator. -/
  | declarator (stack : List Frame) (base : Ty) (d : Partial)
  /-- Behind an opening parenthesis. -/
  | opened (stack : List Frame) (base : Ty) (d : Partial)
  /-- Behind an opening bracket. -/
  | bound (stack : List Frame) (base : Ty) (d : Partial) (n : Option Nat)

/-- Reads a symbol in a declarator. -/
def onSymbol (stack : List Frame) (base : Ty) (d : Partial) : String → Option State
  | "*" =>
    if d.isOpen then some (.declarator stack base (.ofMarks (d.marks ++ [.pointer false])))
    else none
  | "&" =>
    if d.isOpen then some (.declarator stack base (.ofMarks (d.marks ++ [.reference]))) else none
  | "[" => some (.bound stack base d none)
  | "(" => some (.opened stack base d)
  | ")" =>
    match stack with
    | .group marks :: stack => some (.declarator stack base ⟨marks, d.layers, []⟩)
    | .params root e done :: stack =>
      some (.declarator stack root (e.suffixed (.function (done ++ [d.wrap base]))))
    | [] => none
  | "," =>
    match stack with
    | .params root e done :: stack =>
      some (.specifier (.params root e (done ++ [d.wrap base]) :: stack) [])
    | _ => none
  | _ => none

variable (decls : List TypeDecl)

/-- Reads one token. -/
def step : State → Token → Option State
  | .specifier stack words, t =>
    if t.kind = .word ∨ t = .symbol "::" then some (.specifier stack (words ++ [t]))
    else (specifier decls words).bind fun base =>
      t.symbol?.bind (onSymbol stack base (.ofMarks []))
  | .declarator stack base d, t =>
    if t = .word "const" then d.const?.map (.declarator stack base)
    else t.symbol?.bind (onSymbol stack base d)
  | .opened stack base d, t =>
    if t = .symbol ")" then some (.declarator stack base (d.suffixed (.function [])))
    else if t.kind = .word then some (.specifier (.params base d [] :: stack) [t])
    else if d.isOpen then t.symbol?.bind (onSymbol (.group d.marks :: stack) base (.ofMarks []))
    else none
  | .bound stack base d n, t =>
    if t = .symbol "]" then some (.declarator stack base (d.suffixed (.array n)))
    else if t.kind = .number ∧ n = none then
      some (.bound stack base d (some (Nat.ofDigitChars 10 t.chars 0)))
    else none

/-- The type that has been read where the text ends. -/
def finish : State → Option Ty
  | .specifier [] words => specifier decls words
  | .declarator [] base d => some (d.wrap base)
  | _ => none

/-- Reads tokens to the end. -/
def run : State → List Token → Option Ty
  | s, [] => finish decls s
  | s, t :: ts => (step decls s t).bind (run · ts)

end TypeReader

/-- The type that a sequence of tokens denotes. -/
def readType (decls : List TypeDecl) (ts : List Token) : Option Ty :=
  TypeReader.run decls (.specifier [] []) ts

namespace TypeReader

/-! ### What is denoted is read -/

variable {decls : List TypeDecl}

/-- What the reader does with the tokens of a part of a type-id, in front of any others that do not
go on with a specifier. -/
def Reads (decls : List TypeDecl) : TypePhrase → List Token → Prop
  | .typeId t, ts => ∃ base d, Partial.wrap base d = t ∧ ∀ stack rest,
      (∀ s ∈ rest.head?, s.kind ≠ .word ∧ s ≠ .symbol "::") →
        run decls (.specifier stack []) (ts ++ rest) = run decls (.declarator stack base d) rest
  | .params us, ts => us ≠ [] → ∀ stack root d done rest,
      run decls (.specifier (.params root d done :: stack) []) (ts ++ .symbol ")" :: rest) =
        run decls (.declarator stack root (d.suffixed (.function (done ++ us)))) rest
  | .declarator base t, ts => ∃ d, Partial.wrap base d = t ∧ ∀ stack root marks rest,
      run decls (.declarator stack root (.ofMarks marks)) (ts ++ rest) =
        run decls (.declarator stack root { d with marks := marks ++ d.marks }) rest
  | .direct base t, ts => ∃ d, Partial.wrap base d = t ∧ d.marks = [] ∧ ∀ stack root marks rest,
      run decls (.declarator stack root (.ofMarks marks)) (ts ++ rest) =
        run decls (.declarator stack root { d with marks := marks }) rest

theorem run_step {s u : State} {t : Token} (h : step decls s t = some u) (rest : List Token) :
    run decls s (t :: rest) = run decls u rest := by
  rw [run, h, Option.bind_some]

/-- The words of a specifier are collected. -/
theorem run_specifier {ws : List Token} (hws : ∀ w ∈ ws, w.kind = .word ∨ w = .symbol "::")
    (stack : List Frame) (before rest : List Token) :
    run decls (.specifier stack before) (ws ++ rest) =
      run decls (.specifier stack (before ++ ws)) rest := by
  induction ws generalizing before with
  | nil => simp
  | cons w ws ih =>
    obtain ⟨hw, hws⟩ := List.forall_mem_cons.mp hws
    have hstep : step decls (.specifier stack before) w = some (.specifier stack (before ++ [w])) :=
      if_pos hw
    rw [List.cons_append, run_step hstep, ih hws, List.append_assoc, List.singleton_append]

/-- Behind a specifier starts the declarator. -/
theorem run_specified {words : List Token} {base : Ty} (h : specifier decls words = some base)
    (stack : List Frame) {rest : List Token}
    (hrest : ∀ s ∈ rest.head?, s.kind ≠ .word ∧ s ≠ .symbol "::") :
    run decls (.specifier stack words) rest =
      run decls (.declarator stack base (.ofMarks [])) rest := by
  cases rest with
  | nil =>
    cases stack with
    | nil => simp [run, finish, h, Partial.wrap, Partial.layers, Partial.ofMarks]
    | cons => rfl
  | cons s rest =>
    obtain ⟨hword, hcolons⟩ := hrest s rfl
    have hconst : s ≠ .word "const" := by
      rintro rfl
      exact hword rfl
    simp [run, step, hword, hcolons, hconst, h]

namespace Reads

variable {base t : Ty} {ts us : List Token}

/-- A specifier and the declarator behind it. -/
theorem typeId {ws : List Token} (hws : ∀ w ∈ ws, w.kind = .word ∨ w = .symbol "::")
    (hspec : specifier decls ws = some base) (hts : ∀ s ∈ ts.head?, s ∈ declaratorMarks)
    (h : Reads decls (.declarator base t) ts) : Reads decls (.typeId t) (ws ++ ts) := by
  obtain ⟨d, hd, hrun⟩ := h
  refine ⟨base, d, hd, fun stack rest hrest => ?_⟩
  -- neither the declarator nor what follows an empty one goes on with the specifier
  have hhead : ∀ s ∈ (ts ++ rest).head?, s.kind ≠ .word ∧ s ≠ .symbol "::" := by
    cases ts with
    | nil => exact hrest
    | cons s ts =>
      have hmarks : ∀ s ∈ declaratorMarks, s.kind ≠ .word ∧ s ≠ .symbol "::" := by decide
      simpa using hmarks s (hts s rfl)
  rw [List.append_assoc, run_specifier hws, List.nil_append, run_specified hspec stack hhead, hrun]
  rfl

theorem pointer {c : Bool} (h : Reads decls (.declarator (.pointer base c) t) ts) :
    Reads decls (.declarator base t) ([.symbol "*"] ++ constTokens c ++ ts) := by
  obtain ⟨d, hd, hrun⟩ := h
  refine ⟨{ d with marks := .pointer c :: d.marks }, hd, fun stack root marks rest => ?_⟩
  have hstar : step decls (.declarator stack root (.ofMarks marks)) (.symbol "*") =
      some (.declarator stack root (.ofMarks (marks ++ [.pointer false]))) := rfl
  have hconst : step decls (.declarator stack root (.ofMarks (marks ++ [.pointer false])))
      (.word "const") = some (.declarator stack root (.ofMarks (marks ++ [.pointer true]))) := by
    simp [step, Partial.const?, Partial.ofMarks, Partial.isOpen]
  have hmark : run decls (.declarator stack root (.ofMarks marks))
      (.symbol "*" :: (constTokens c ++ (ts ++ rest))) =
        run decls (.declarator stack root (.ofMarks (marks ++ [.pointer c]))) (ts ++ rest) := by
    rw [run_step hstar]
    cases c with
    | false => rfl
    | true => exact run_step hconst _
  rw [List.append_assoc, List.append_assoc, List.singleton_append, hmark, hrun, List.append_assoc]
  rfl

theorem reference (h : Reads decls (.declarator base.ref t) ts) :
    Reads decls (.declarator base t) ([.symbol "&"] ++ ts) := by
  obtain ⟨d, hd, hrun⟩ := h
  refine ⟨{ d with marks := .reference :: d.marks }, hd, fun stack root marks rest => ?_⟩
  have hmark : step decls (.declarator stack root (.ofMarks marks)) (.symbol "&") =
      some (.declarator stack root (.ofMarks (marks ++ [.reference]))) := rfl
  rw [List.append_assoc, List.singleton_append, run_step hmark, hrun, List.append_assoc]
  rfl

theorem direct (h : Reads decls (.direct base t) ts) : Reads decls (.declarator base t) ts := by
  obtain ⟨d, hd, hmarks, hrun⟩ := h
  refine ⟨d, hd, fun stack root marks rest => ?_⟩
  rw [hrun, hmarks, List.append_nil]

theorem nothing : Reads decls (.direct base base) [] :=
  ⟨.ofMarks [], rfl, rfl, fun _ _ _ _ => rfl⟩

theorem group (h : Reads decls (.declarator base t) ts) (hne : ts ≠ [])
    (hts : ∀ s ∈ ts.head?, s ∈ declaratorMarks) :
    Reads decls (.direct base t) ([.symbol "("] ++ ts ++ [.symbol ")"]) := by
  obtain ⟨d, hd, hrun⟩ := h
  refine ⟨⟨[], d.layers, []⟩, by simpa [Partial.wrap, Partial.layers] using hd, rfl,
    fun stack root marks rest => ?_⟩
  have hopen : step decls (.declarator stack root (.ofMarks marks)) (.symbol "(") =
      some (.opened stack root (.ofMarks marks)) := rfl
  have hclose : step decls (.declarator (.group marks :: stack) root d) (.symbol ")") =
      some (.declarator stack root ⟨marks, d.layers, []⟩) := rfl
  -- a mark behind the parenthesis tells it from the parentheses of a function
  have hinside : run decls (.opened stack root (.ofMarks marks)) (ts ++ .symbol ")" :: rest) =
      run decls (.declarator (.group marks :: stack) root (.ofMarks []))
        (ts ++ .symbol ")" :: rest) := by
    obtain ⟨s, ts, rfl⟩ := List.exists_cons_of_ne_nil hne
    have hmarks : ∀ s ∈ declaratorMarks, s ≠ .symbol ")" ∧ s.kind ≠ .word ∧ s ≠ .word "const" := by
      decide
    obtain ⟨hparen, hword, hconst⟩ := hmarks s (hts s rfl)
    simp [run, step, hparen, hword, hconst, Partial.isOpen, Partial.ofMarks]
  simp only [List.append_assoc, List.cons_append, List.nil_append]
  rw [run_step hopen, hinside, hrun, List.nil_append, run_step hclose]

theorem wrap_suffixed {d : Partial} (hmarks : d.marks = []) (l : Layer) :
    (d.suffixed l).wrap base = d.wrap (l.wrap base) := by
  simp [Partial.wrap, Partial.layers, Partial.suffixed, hmarks]

theorem array {bound : Option Nat} (h : Reads decls (.direct (base.arrayOf bound) t) ts) :
    Reads decls (.direct base t) (ts ++ [.symbol "["] ++ boundTokens bound ++ [.symbol "]"]) := by
  obtain ⟨d, hd, hmarks, hrun⟩ := h
  refine ⟨d.suffixed (.array bound), (wrap_suffixed hmarks _).trans hd, hmarks,
    fun stack root marks rest => ?_⟩
  have hopen : step decls (.declarator stack root { d with marks := marks }) (.symbol "[") =
      some (.bound stack root { d with marks := marks } none) := rfl
  have hbound : run decls (.bound stack root { d with marks := marks } none)
      (boundTokens bound ++ .symbol "]" :: rest) =
        run decls (.bound stack root { d with marks := marks } bound) (.symbol "]" :: rest) := by
    cases bound with
    | none => rfl
    | some n =>
      refine run_step ?_ _
      simp [step, Token.symbol, toString, Nat.repr, String.toList_ofList]
  have hclose : step decls (.bound stack root { d with marks := marks } bound) (.symbol "]") =
      some (.declarator stack root { d.suffixed (.array bound) with marks := marks }) := rfl
  simp only [List.append_assoc, List.cons_append, List.nil_append]
  rw [hrun, run_step hopen, hbound, run_step hclose]

/-- A type-id in front of a comma or a closing parenthesis of the parameters of a function. -/
theorem closed (h : Reads decls (.typeId t) ts) {stack : List Frame} {root : Ty} {e : Partial}
    {done : List Ty} {s : String} (hs : s = "," ∨ s = ")") (rest : List Token) :
    run decls (.specifier (.params root e done :: stack) []) (ts ++ .symbol s :: rest) =
      if s = "," then run decls (.specifier (.params root e (done ++ [t]) :: stack) []) rest
      else run decls (.declarator stack root (e.suffixed (.function (done ++ [t])))) rest := by
  obtain ⟨base, d, rfl, hrun⟩ := h
  rw [hrun _ _ (by rcases hs with rfl | rfl <;> simp [Token.symbol])]
  rcases hs with rfl | rfl
  · exact run_step rfl _
  · exact run_step rfl _

theorem oneParam (h : Reads decls (.typeId t) ts) : Reads decls (.params [t]) ts :=
  fun _ _ _ _ _ rest => h.closed (Or.inr rfl) rest

theorem moreParams {u : Ty} {more : List Ty} (h : Reads decls (.typeId t) ts)
    (hus : Reads decls (.params (u :: more)) us) :
    Reads decls (.params (t :: u :: more)) (ts ++ [.symbol ","] ++ us) := by
  intro _ stack root e done rest
  simp only [List.append_assoc, List.cons_append, List.nil_append]
  rw [h.closed (Or.inl rfl), if_pos rfl, hus (List.cons_ne_nil _ _), List.append_assoc]
  rfl

theorem function {params : List Ty} (h : Reads decls (.direct (base.functionOf params) t) ts)
    (hparams : Reads decls (.params params) us)
    (hus : params = [] ∧ us = [] ∨ params ≠ [] ∧ ∃ w more, us = w :: more ∧ w.kind = .word) :
    Reads decls (.direct base t) (ts ++ [.symbol "("] ++ us ++ [.symbol ")"]) := by
  obtain ⟨d, hd, hmarks, hrun⟩ := h
  refine ⟨d.suffixed (.function params), (wrap_suffixed hmarks _).trans hd, hmarks,
    fun stack root marks rest => ?_⟩
  have hopen : step decls (.declarator stack root { d with marks := marks }) (.symbol "(") =
      some (.opened stack root { d with marks := marks }) := rfl
  -- the parameters start with a word, if there are any
  have hinside : run decls (.opened stack root { d with marks := marks })
      (us ++ .symbol ")" :: rest) =
        run decls (.declarator stack root { d.suffixed (.function params) with marks := marks })
          rest := by
    rcases hus with ⟨rfl, rfl⟩ | ⟨hne, w, more, rfl, hw⟩
    · exact run_step rfl _
    · have hparen : w ≠ .symbol ")" := by
        rintro rfl
        cases hw
      have hfirst : step decls (.opened stack root { d with marks := marks }) w =
          step decls (.specifier (.params root { d with marks := marks } [] :: stack) []) w := by
        simp [step, hparen, hw]
      have := hparams hne stack root { d with marks := marks } [] rest
      rw [List.cons_append, run] at this ⊢
      rw [hfirst, this]
      rfl
  simp only [List.append_assoc, List.cons_append, List.nil_append]
  rw [hrun, run_step hopen, hinside]

end Reads

theorem constTokens_words (c : Bool) : ∀ w ∈ constTokens c, w.kind = .word ∨ w = .symbol "::" := by
  cases c <;> simp [constTokens, Token.word]

theorem primitive_words (p : Primitive) :
    ∀ w ∈ p.words.map Token.word, w.kind = .word ∨ w = .symbol "::" := by
  intro w hw
  obtain ⟨s, -, rfl⟩ := List.mem_map.mp hw
  exact Or.inl rfl

theorem name_words (n : Name) : ∀ w ∈ n.tokens, w.kind = .word ∨ w = .symbol "::" := by
  obtain ⟨scope, s⟩ := n
  induction scope with
  | nil => simp [Name.tokens, Token.word]
  | cons outer scope ih =>
    simp only [Name.tokens, List.foldr_cons, List.forall_mem_cons] at ih ⊢
    exact ⟨Or.inl rfl, Or.inr trivial, ih⟩

theorem primitive_head (p : Primitive) :
    (p.words.map Token.word).head? ≠ some (.word "const") := by
  cases p <;> decide

theorem name_head {n : Name} (h : "const" ∉ n.identifier :: n.scope) :
    n.tokens.head? ≠ some (.word "const") := by
  obtain ⟨scope, s⟩ := n
  simp only [List.mem_cons, not_or] at h
  intro heq
  cases scope with
  | nil => exact h.1 (word_injective (Option.some.inj heq)).symm
  | cons outer scope =>
    exact h.2 (word_injective (Option.some.inj heq) ▸ List.mem_cons_self)

theorem reads_of_denotes {A : Alphabet} (hs : Scope A decls) {p : TypePhrase} {ts : List Token}
    (h : Denotes decls p ts) : Reads decls p ts := by
  induction h with
  | @primitive p c t ts h ih =>
    have hspec := specifier_eq (specified_words decls p) (primitive_head p) c
    exact ih.typeId (List.forall_mem_append.mpr ⟨constTokens_words c, primitive_words p⟩) hspec
      h.head
  | @named d c t ts hd h ih =>
    have hspec := specifier_eq (specified_name hs hd) (name_head (hs.nameable d hd).notConst) c
    exact ih.typeId (List.forall_mem_append.mpr ⟨constTokens_words c, name_words d.name⟩) hspec
      h.head
  | pointer _ ih => exact ih.pointer
  | reference _ ih => exact ih.reference
  | direct _ ih => exact ih.direct
  | nothing => exact Reads.nothing
  | group h hne ih => exact ih.group hne h.head
  | array _ ih => exact ih.array
  | function _ hus ih ihus => exact ih.function ihus hus.head
  | noParams => exact fun hne => absurd rfl hne
  | oneParam _ ih => exact ih.oneParam
  | moreParams _ _ ih ihus => exact ih.moreParams ihus

end TypeReader

variable {A : Alphabet} {decls : List TypeDecl} {ts : List Token}

/-- What tokens denote is read. -/
theorem readType_of_denotes (hs : Scope A decls) {t : Ty} (h : Denotes decls (.typeId t) ts) :
    readType decls ts = some t := by
  obtain ⟨base, d, rfl, hrun⟩ := TypeReader.reads_of_denotes hs h
  have := hrun [] [] (by simp)
  rwa [List.append_nil] at this

/-- No sequence of tokens denotes two types. -/
theorem Denotes.unique (hs : Scope A decls) {t u : Ty} (ht : Denotes decls (.typeId t) ts)
    (hu : Denotes decls (.typeId u) ts) : t = u :=
  Option.some.inj ((readType_of_denotes hs ht).symm.trans (readType_of_denotes hs hu))

end ExprEmit
