import ExprEmit.Document.Basic

/-!
# Induction over terms

A function type holds a list of type terms and a call a list of expression terms.
`TypeTerm.induct` and `ExprTerm.induct` give an induction hypothesis for each member of such a list.
-/

namespace ExprEmit

/-- Induction over type terms, with a hypothesis for each parameter of a function. -/
@[elab_as_elim, induction_eliminator]
theorem TypeTerm.induct {P : TypeTerm → Prop}
    (primitive : ∀ p, P (.primitive p))
    (named : ∀ name, P (.named name))
    (pointer : ∀ t, P t → P (.pointer t))
    (reference : ∀ t, P t → P (.reference t))
    (const : ∀ t, P t → P (.const t))
    (array : ∀ t size, P t → P (.array t size))
    (function : ∀ r ps, P r → (∀ t ∈ ps, P t) → P (.function r ps)) (t : TypeTerm) : P t :=
  -- of a list of parameters, what is to be proved of each of them
  TypeTerm.rec (motive_1 := P) (motive_2 := fun ts => ∀ t ∈ ts, P t) primitive named pointer
    reference const array (fun r ps hr hps => function r ps hr hps) (fun _ h => nomatch h)
    (fun _ _ ht hts => List.forall_mem_cons.mpr ⟨ht, hts⟩) t

/-- Induction over expression terms, with a hypothesis for each argument of a call. -/
@[elab_as_elim, induction_eliminator]
theorem ExprTerm.induct {P : ExprTerm → Prop}
    (int : ∀ n, P (.int n))
    (unsigned : ∀ n, P (.unsigned n))
    (bool : ∀ b, P (.bool b))
    (char : ∀ c, P (.char c))
    (float : ∀ x, P (.float x))
    (nullPtr : P .nullPtr)
    (string : ∀ s, P (.string s))
    (literal : ∀ t value, P (.literal t value))
    (access : ∀ name, P (.access name))
    (member : ∀ b field arrow, P b → P (.member b field arrow))
    (call : ∀ f args, (∀ x ∈ args, P x) → P (.call f args))
    (unary : ∀ op x, P x → P (.unary op x))
    (binary : ∀ op l r, P l → P r → P (.binary op l r))
    (conditional : ∀ c p n, P c → P p → P n → P (.conditional c p n))
    (cast : ∀ t x, P x → P (.cast t x)) (e : ExprTerm) : P e :=
  ExprTerm.rec (motive_1 := P) (motive_2 := fun es => ∀ e ∈ es, P e) int unsigned bool char float
    nullPtr string literal access member call unary binary conditional cast
    (fun _ h => nomatch h) (fun _ _ he hes => List.forall_mem_cons.mpr ⟨he, hes⟩) e

end ExprEmit
