import ExprEmit.Proofs.Expr.Cache
import Mathlib.Logic.Function.Basic

/-!
# Where a type is resolved

The type of an expression comes about by itself or from that of one operand (`Expr.typeRule`), so
resolving it goes along one path into the expression (`Expr.resolutionPath`) until it comes upon a
type that is known (`Expr.pending`).

What a cache knows is a function of the places of the expression (`TypeCache.known`), and what a
child knows is grafted into what the whole knows (`TypeCache.known_withChild`).
-/

namespace ExprEmit

/-! ### What a cache knows -/

/-- The type objects that are known of an expression, place by place. -/
abbrev Known : Type := List Nat → Option SharedType

namespace Known

/-- What is known of the `i`-th child. -/
def child (known : Known) (i : Nat) : Known := fun path => known (i :: path)

/-- What is known, with `inner` for what is known of the `i`-th child. -/
def graft (known : Known) (i : Nat) (inner : Known) : Known
  | [] => known []
  | j :: path => if j = i then inner path else known (j :: path)

variable (known inner : Known) (i : Nat)

theorem child_graft : (known.graft i inner).child i = inner := by
  funext path
  exact if_pos rfl

theorem graft_child : known.graft i (known.child i) = known := by
  funext path
  cases path with
  | nil => rfl
  | cons j path =>
    rw [graft]
    split
    · next hj => rw [hj, child]
    · rfl

theorem update_graft (path : List Nat) (t : Option SharedType) :
    Function.update (known.graft i inner) (i :: path) t =
      known.graft i (Function.update inner path t) := by
  funext q
  cases q with
  | nil => exact Function.update_of_ne (List.cons_ne_nil i path).symm t (known.graft i inner)
  | cons j q =>
    -- a place other than the one that has changed, or in another child
    by_cases hq : j :: q = i :: path
    · obtain ⟨rfl, rfl⟩ := List.cons.inj hq
      simp [graft]
    · rw [Function.update_of_ne hq, graft, graft]
      split
      · next hj => rw [Function.update_of_ne fun h => hq (by rw [hj, h])]
      · rfl

end Known

namespace TypeCache

/-- What the cache knows. -/
def known (c : TypeCache) : Known := fun path => (c.atPath path).slot

theorem known_child (c : TypeCache) (i : Nat) : (c.child i).known = c.known.child i := rfl

theorem known_withChild (c d : TypeCache) (i : Nat) :
    (c.withChild i d).known = c.known.graft i d.known := by
  funext path
  cases path with
  | nil => rfl
  | cons j path =>
    rw [known, atPath, child_withChild, Known.graft]
    split <;> rfl

theorem known_withSlot (c : TypeCache) (t : SharedType) :
    (c.withSlot t).known = Function.update c.known [] (some t) := by
  funext path
  cases path with
  | nil => exact (Function.update_self [] (some t) c.known).symm
  | cons j path => exact (Function.update_of_ne (List.cons_ne_nil j path) (some t) c.known).symm

end TypeCache

/-! ### Rules -/

/-- How an expression comes by its type. -/
inductive TypeRule where
  /-- By itself. -/
  | own (derive : Nat → Derived)
  /-- From the type of its `i`-th child, which is `x`. -/
  | of (i : Nat) (x : Expr) (derive : SharedType → Nat → Derived)

namespace Expr

theorem at?_cons {e x : Expr} {i : Nat} (hx : e.children[i]? = some x) (path : List Nat) :
    e.at? (i :: path) = x.at? path := by
  simp [at?, hx]

theorem at?_append (e : Expr) (path q : List Nat) :
    e.at? (path ++ q) = (e.at? path).bind (·.at? q) := by
  induction path generalizing e with
  | nil => rfl
  | cons i path ih =>
    rw [List.cons_append, at?, at?, Option.bind_assoc]
    exact congrArg _ (funext fun x => ih x)

/-- The rule for the type of an expression. -/
def typeRule : Expr → TypeRule
  | literal t _ => .own (.share t)
  | string _ => .own (.share .ofStrings)
  | access x => .own (.share x.type)
  | member _ f _ => .own (.share f.type)
  | call f _ => .own (.ofCall f)
  | unary op x => .of 0 x (.ofUnary op)
  | binary op l r =>
    if op.yieldsBool then .own (.make (.ofPrimitive .bool))
    else if op = .comma then .of 1 r .share
    else .of 0 l .share
  | conditional _ p _ => .of 1 p .share
  | cast t _ => .own (.share t)

/-- The places at which the type of an expression is resolved if none is known: the expression, the
operand of a unary operator, the right side of a comma, the left side of any other operator that
does not yield a `bool`, the positive branch of a conditional, and so on. -/
def resolutionPath : Expr → List (List Nat)
  | unary _ x => [] :: x.resolutionPath.map (0 :: ·)
  | binary op l r =>
    if op.yieldsBool then [[]]
    else if op = .comma then [] :: r.resolutionPath.map (1 :: ·)
    else [] :: l.resolutionPath.map (0 :: ·)
  | conditional _ p _ => [] :: p.resolutionPath.map (1 :: ·)
  | _ => [[]]

/-- The places at which the type of an expression has to be resolved: the resolution path up to the
first place at which it is known. -/
def pending (e : Expr) (known : Known) : List (List Nat) :=
  e.resolutionPath.takeWhile fun path => (known path).isNone

end Expr

/-- What a rule says of the expressions that it is the rule of. -/
def TypeRule.Governs (e : Expr) : TypeRule → Prop
  | own derive =>
    e.resolutionPath = [[]] ∧ (∀ n, (derive n).log.length ≤ 1) ∧
      ∀ c n, e.resolve c n = c.recall n fun _ => .ofDerived (derive n) c
  | of i x derive =>
    e.children[i]? = some x ∧ e.resolutionPath = [] :: x.resolutionPath.map (i :: ·) ∧
      (∀ t n, (derive t n).log.length ≤ 1) ∧
      ∀ c n, e.resolve c n = c.recall n fun _ =>
        let r := x.resolve (c.child i) n
        let d := derive r.type r.fresh
        ⟨d.type, c.withChild i r.cache, d.fresh, r.log ++ d.log⟩

namespace Expr

theorem length_log_ofUnary_le (op : UnaryOp) (t : SharedType) (n : Nat) :
    (Derived.ofUnary op t n).log.length ≤ 1 := by
  cases op with
  | deref =>
    rw [Derived.ofUnary]
    split <;> simp [Derived.make]
  | _ => simp [Derived.ofUnary, Derived.make, Derived.share]

theorem length_log_ofCall_le (f : Element) (n : Nat) : (Derived.ofCall f n).log.length ≤ 1 := by
  rw [Derived.ofCall]
  split <;> simp [Derived.make]

/-- An expression that takes over the type of its `i`-th child. -/
theorem governs_share {e x : Expr} {i : Nat} (hx : e.children[i]? = some x)
    (hpath : e.resolutionPath = [] :: x.resolutionPath.map (i :: ·))
    (hresolve : ∀ c n, e.resolve c n = c.recall n fun _ => (x.resolve (c.child i) n).ofChild c i) :
    (TypeRule.of i x .share).Governs e := by
  refine ⟨hx, hpath, fun _ _ => Nat.zero_le 1, fun c n => ?_⟩
  simp only [hresolve, Derived.share, List.append_nil]
  rfl

theorem governs_typeRule (e : Expr) : e.typeRule.Governs e := by
  cases e with
  | literal | string | access | member | cast =>
    exact ⟨rfl, fun _ => Nat.zero_le 1, fun _ _ => rfl⟩
  | call f args => exact ⟨rfl, length_log_ofCall_le f, fun _ _ => rfl⟩
  | unary op x => exact ⟨rfl, rfl, length_log_ofUnary_le op, fun _ _ => rfl⟩
  | binary op l r =>
    rw [typeRule]
    split
    · next hbool =>
      exact ⟨if_pos hbool, fun _ => Nat.zero_le 1, fun c n => by simp only [resolve, if_pos hbool]⟩
    · next hbool =>
      split
      · next hcomma =>
        refine governs_share rfl ?_ fun c n => ?_
        · rw [resolutionPath, if_neg hbool, if_pos hcomma]
        · simp only [resolve, if_neg hbool, if_pos hcomma]
      · next hcomma =>
        refine governs_share rfl ?_ fun c n => ?_
        · rw [resolutionPath, if_neg hbool, if_neg hcomma]
        · simp only [resolve, if_neg hbool, if_neg hcomma]
  | conditional c p n => exact governs_share rfl rfl fun _ _ => rfl

variable {e x : Expr} {i : Nat}

theorem governs_own {derive : Nat → Derived} (h : e.typeRule = .own derive) :
    (TypeRule.own derive).Governs e :=
  h ▸ e.governs_typeRule

theorem governs_of {derive : SharedType → Nat → Derived} (h : e.typeRule = .of i x derive) :
    (TypeRule.of i x derive).Governs e :=
  h ▸ e.governs_typeRule

/-- Induction along the rules. -/
theorem inductOnTypeRule {P : Expr → Prop}
    (own : ∀ e derive, e.typeRule = .own derive → P e)
    (of : ∀ e i x derive, e.typeRule = .of i x derive → P x → P e) (e : Expr) : P e := by
  induction e using inductOnChildren with
  | step e ih =>
    cases h : e.typeRule with
    | own derive => exact own e derive h
    | of i x derive => exact of e i x derive h (ih x (List.mem_of_getElem? (governs_of h).1))

/-! ### Resolving by the rule -/

variable {c : TypeCache} {known : Known}

theorem resolve_of_known {t : SharedType} (h : c.slot = some t) (n : Nat) :
    e.resolve c n = ⟨t, c, n, []⟩ := by
  cases e <;> simp only [resolve, TypeCache.recall, h]

theorem resolve_of_own {derive : Nat → Derived} (h : e.typeRule = .own derive)
    (hc : c.slot = none) (n : Nat) :
    let d := derive n
    e.resolve c n = ⟨d.type, c.withSlot d.type, d.fresh, d.log⟩ := by
  obtain ⟨-, -, hresolve⟩ := governs_own h
  rw [hresolve, TypeCache.recall, hc]
  rfl

theorem resolve_of_child {derive : SharedType → Nat → Derived} (h : e.typeRule = .of i x derive)
    (hc : c.slot = none) (n : Nat) :
    let r := x.resolve (c.child i) n
    let d := derive r.type r.fresh
    e.resolve c n =
      ⟨d.type, (c.withChild i r.cache).withSlot d.type, d.fresh, r.log ++ d.log⟩ := by
  obtain ⟨-, -, -, hresolve⟩ := governs_of h
  rw [hresolve, TypeCache.recall, hc]

/-! ### What is pending -/

theorem pending_of_known {t : SharedType} (h : known [] = some t) : e.pending known = [] := by
  cases hrule : e.typeRule with
  | own => simp [pending, (governs_own hrule).1, h]
  | of => simp [pending, (governs_of hrule).2.1, h]

theorem pending_of_own {derive : Nat → Derived} (h : e.typeRule = .own derive)
    (hknown : known [] = none) : e.pending known = [[]] := by
  simp [pending, (governs_own h).1, hknown]

theorem pending_of_child {derive : SharedType → Nat → Derived} (h : e.typeRule = .of i x derive)
    (hknown : known [] = none) :
    e.pending known = [] :: (x.pending (known.child i)).map (i :: ·) := by
  rw [pending, (governs_of h).2.1, List.takeWhile_cons_of_pos (by rw [hknown]; rfl),
    List.takeWhile_map]
  rfl

end Expr

end ExprEmit
