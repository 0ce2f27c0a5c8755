import ExprEmit.Proofs.Emission

/-!
# The `const` of an array

In C++ a constant array is an array of constant elements, so `const` on an array says as much as
`const` on its innermost elements (`Ty.constElement`).  The text of a type says less: wherever an
array stands in a type, a `const` of the array itself leaves no trace, and the type is written like
the one with a modifiable array (`Ty.text_constArray`).  Nothing is lost only where the elements are
constant already.

To see that something is missing it is enough to count characters.  A `const` on the elements takes
six of them, in whatever declarator the array stands (`Ty.Widens`), and that is so layer by layer up
to the whole type (`Ty.Widens.plug`).
-/

namespace ExprEmit

/-! ### Places in a type -/

/-- A type with a gap: what stands around a type inside a larger one, outermost layer first. -/
inductive TypeContext where
  | gap
  | pointer (inner : TypeContext) (isConst : Bool)
  | reference (inner : TypeContext) (isConst : Bool)
  | array (inner : TypeContext) (bound : Option Nat) (isConst : Bool)
  /-- A function whose return type has the gap. -/
  | returns (inner : TypeContext) (params : List Ty) (isConst : Bool)
  /-- A function with the gap in the parameter between `before` and `after`. -/
  | param (returns : Ty) (before : List Ty) (inner : TypeContext) (after : List Ty) (isConst : Bool)

/-- The type with `t` in the gap. -/
def TypeContext.plug (t : Ty) : TypeContext → Ty
  | gap => t
  | pointer k c => .pointer (k.plug t) c
  | reference k c => .reference (k.plug t) c
  | array k b c => .array (k.plug t) b c
  | returns k ps c => .function (k.plug t) ps c
  | param r before k after c => .function r (before ++ k.plug t :: after) c

namespace Ty

/-! ### Arrays and their elements -/

/-- Whether the type is an array. -/
def isArray : Ty → Bool
  | array _ _ _ => true
  | _ => false

/-- The innermost element of an array; what is no array is its own. -/
def innermost : Ty → Ty
  | array t _ _ => t.innermost
  | t => t

/-- The same type with its innermost elements `const`. -/
def constElement : Ty → Ty
  | array t b c => array t.constElement b c
  | t => t.asConst

/-- Whether `const` can be written of the type itself. -/
def takesConst : Ty → Bool
  | primitive _ _ | named _ _ | pointer _ _ => true
  | _ => false

end Ty

/-! ### Lengths -/

theorem isEmpty_of_length_pos {s : String} (h : 0 < s.length) : s.isEmpty = false := by
  rw [String.isEmpty_eq_false_iff]
  rintro rfl
  exact absurd h (by decide)

theorem TypeId.length_text (t : TypeId) :
    t.text.length = (if t.isConst then 6 else 0) + t.specifier.length +
      (if t.declarator.isEmpty then 0
       else (if t.suffixed then 0 else 1) + t.declarator.length) := by
  obtain ⟨isConst, specifier, declarator, suffixed⟩ := t
  have hconst : "const ".length = 6 := rfl
  have hblank : " ".length = 1 := rfl
  rw [text, pieces]
  cases isConst <;> cases declarator.isEmpty <;> cases suffixed <;> simp [hconst, hblank] <;> omega

namespace Ty

theorem length_markedDeclarator (mark rest : String) (suffixed grouped : Bool) :
    (markedDeclarator mark rest suffixed grouped).length = mark.length +
      (if rest.isEmpty then 0 else (if suffixed then 0 else 1) + rest.length) +
      (if grouped then 2 else 0) := by
  have hblank : " ".length = 1 := rfl
  have hopen : "(".length = 1 := rfl
  have hclose : ")".length = 1 := rfl
  rw [markedDeclarator]
  cases rest.isEmpty <;> cases suffixed <;> cases grouped <;>
    simp [hblank, hopen, hclose] <;> omega

theorem length_pointerMark (isConst : Bool) :
    (pointerMark isConst).length = if isConst then 7 else 1 := by
  cases isConst <;> rfl

/-- Whether a declarator that is longer makes the text of the type as much longer. -/
def Stretches (t : Ty) : Prop :=
  ∀ (rest rest' : String) (suffixed : Bool), 0 < rest.length → 0 < rest'.length →
    (t.typeIdAround rest' suffixed).text.length + rest.length =
      (t.typeIdAround rest suffixed).text.length + rest'.length

variable {t u : Ty}

/-- A mark adds the same to both declarators. -/
theorem Stretches.marked (ht : t.Stretches) {mark : String} (hmark : 0 < mark.length)
    {rest rest' : String} (h : 0 < rest.length) (h' : 0 < rest'.length) (suffixed : Bool) :
    (t.typeIdAround (markedDeclarator mark rest' suffixed t.takesSuffix) false).text.length +
        rest.length =
      (t.typeIdAround (markedDeclarator mark rest suffixed t.takesSuffix) false).text.length +
        rest'.length := by
  have hlength := length_markedDeclarator mark rest suffixed t.takesSuffix
  have hlength' := length_markedDeclarator mark rest' suffixed t.takesSuffix
  simp only [isEmpty_of_length_pos h, Bool.false_eq_true, if_false] at hlength
  simp only [isEmpty_of_length_pos h', Bool.false_eq_true, if_false] at hlength'
  have := ht _ _ false (by omega : 0 < (markedDeclarator mark rest suffixed t.takesSuffix).length)
    (by omega : 0 < (markedDeclarator mark rest' suffixed t.takesSuffix).length)
  omega

/-- So does a suffix. -/
theorem Stretches.suffixed (ht : t.Stretches) (tail : String) {rest rest' : String}
    (h : 0 < rest.length) (h' : 0 < rest'.length) (suffixed : Bool) :
    (t.typeIdAround (rest' ++ tail) (suffixed || rest'.isEmpty)).text.length + rest.length =
      (t.typeIdAround (rest ++ tail) (suffixed || rest.isEmpty)).text.length + rest'.length := by
  have hlonger : ∀ s : String, 0 < s.length → 0 < (s ++ tail).length := by
    intro s hs
    rw [String.length_append]
    omega
  have := ht (rest ++ tail) (rest' ++ tail) suffixed (hlonger _ h) (hlonger _ h')
  simp only [String.length_append] at this
  simp only [isEmpty_of_length_pos h, isEmpty_of_length_pos h', Bool.or_false]
  omega

theorem stretches (t : Ty) : t.Stretches := by
  intro rest rest' suffixed h h'
  induction t generalizing rest rest' suffixed with
  | primitive p c | named d c =>
    simp only [typeIdAround, TypeId.length_text, isEmpty_of_length_pos h, isEmpty_of_length_pos h',
      Bool.false_eq_true, if_false]
    omega
  | pointer t c ih => exact Stretches.marked ih (by cases c <;> decide) h h' suffixed
  | reference t c ih => exact Stretches.marked ih (by decide) h h' suffixed
  | array t b c ih =>
    simp only [typeIdAround, String.append_assoc]
    exact Stretches.suffixed ih _ h h' suffixed
  | function r ps c ihr ihps =>
    simp only [typeIdAround, String.append_assoc]
    exact Stretches.suffixed ihr _ h h' suffixed

theorem paramTexts_eq_map (ts : List Ty) : paramTexts ts = ts.map text := by
  induction ts with
  | nil => rfl
  | cons t ts ih => rw [paramTexts, ih, List.map_cons, text, typeId]

/-- One of the joined texts as a part of the whole length. -/
theorem length_intercalate (separator : String) (before after : List String) (s s' : String) :
    (separator.intercalate (before ++ s' :: after)).length + s.length =
      (separator.intercalate (before ++ s :: after)).length + s'.length := by
  induction before with
  | nil =>
    cases after with
    | nil =>
      simp only [List.nil_append, String.intercalate_singleton]
      omega
    | cons a after =>
      simp only [List.nil_append, String.intercalate_cons_cons, String.length_append]
      omega
  | cons b before ih =>
    rw [List.cons_append, List.cons_append, String.intercalate_cons_of_ne_nil (by simp),
      String.intercalate_cons_of_ne_nil (by simp)]
    simp only [String.length_append]
    omega

/-! ### Types that are written with more -/

/-- Whether `u` is written with `n` characters more than `t`, in whatever declarator. -/
structure Widens (n : Nat) (t u : Ty) : Prop where
  takesSuffix : u.takesSuffix = t.takesSuffix
  length : ∀ rest suffixed,
    (u.typeIdAround rest suffixed).text.length = (t.typeIdAround rest suffixed).text.length + n

namespace Widens

variable {n : Nat}

theorem pointer (h : Widens n t u) (c : Bool) : Widens n (.pointer t c) (.pointer u c) where
  takesSuffix := rfl
  length rest suffixed := by
    simp only [typeIdAround, h.takesSuffix, h.length]

theorem reference (h : Widens n t u) (c : Bool) : Widens n (.reference t c) (.reference u c) where
  takesSuffix := rfl
  length rest suffixed := by
    simp only [typeIdAround, h.takesSuffix, h.length]

theorem array (h : Widens n t u) (b : Option Nat) (c : Bool) :
    Widens n (.array t b c) (.array u b c) where
  takesSuffix := rfl
  length rest suffixed := by
    simp only [typeIdAround, h.length]

theorem returns (h : Widens n t u) (ps : List Ty) (c : Bool) :
    Widens n (.function t ps c) (.function u ps c) where
  takesSuffix := rfl
  length rest suffixed := by
    simp only [typeIdAround, h.length]

theorem param (h : Widens n t u) (r : Ty) (before after : List Ty) (c : Bool) :
    Widens n (.function r (before ++ t :: after) c) (.function r (before ++ u :: after) c) where
  takesSuffix := rfl
  length rest suffixed := by
    have htext : u.text.length = t.text.length + n := h.length "" false
    have hparams := length_intercalate ", " (before.map text) (after.map text) t.text u.text
    have hopen : "(".length = 1 := rfl
    have hpos : ∀ params : String, 0 < (rest ++ "(" ++ params ++ ")").length := by
      intro params
      simp only [String.length_append, hopen]
      omega
    simp only [typeIdAround, paramTexts_eq_map, List.map_append, List.map_cons]
    -- the return type stands around a declarator that is longer by `n`
    have hreturns := r.stretches
      (rest ++ "(" ++ ", ".intercalate (before.map text ++ t.text :: after.map text) ++ ")")
      (rest ++ "(" ++ ", ".intercalate (before.map text ++ u.text :: after.map text) ++ ")")
      (suffixed || rest.isEmpty) (hpos _) (hpos _)
    simp only [String.length_append] at hreturns
    omega

/-- What makes a type wider makes every type wider that it stands in. -/
theorem plug (h : Widens n t u) (k : TypeContext) : Widens n (k.plug t) (k.plug u) := by
  induction k with
  | gap => exact h
  | pointer k c ih => exact ih.pointer c
  | reference k c ih => exact ih.reference c
  | array k b c ih => exact ih.array b c
  | returns k ps c ih => exact ih.returns ps c
  | param r before k after c ih => exact ih.param r before after c

end Widens

/-- A `const` that can be written takes six characters, and one of an element is written. -/
theorem widens_asConst (h : t.takesConst = true) (hconst : t.isConst = false) :
    Widens 6 t t.asConst := by
  cases t with
  | primitive p c | named d c =>
    obtain rfl : c = false := hconst
    refine ⟨rfl, fun rest suffixed => ?_⟩
    simp only [asConst, typeIdAround, TypeId.length_text, if_true, Bool.false_eq_true, if_false]
    omega
  | pointer t c =>
    obtain rfl : c = false := hconst
    refine ⟨rfl, fun rest suffixed => ?_⟩
    have hmark := length_markedDeclarator (pointerMark false) rest suffixed t.takesSuffix
    have hmark' := length_markedDeclarator (pointerMark true) rest suffixed t.takesSuffix
    rw [length_pointerMark] at hmark hmark'
    simp only [if_true, Bool.false_eq_true, if_false] at hmark hmark'
    have := t.stretches (markedDeclarator (pointerMark false) rest suffixed t.takesSuffix)
      (markedDeclarator (pointerMark true) rest suffixed t.takesSuffix) false (by omega) (by omega)
    simp only [asConst, typeIdAround]
    omega
  | reference t c => cases h
  | array t b c => cases h
  | function r ps c => cases h

theorem widens_constElement (h : t.innermost.takesConst = true)
    (hconst : t.innermost.isConst = false) : Widens 6 t t.constElement := by
  induction t with
  | array t b c ih => exact (ih h hconst).array b c
  | _ => exact widens_asConst h hconst

theorem asConst_of_isConst (h : t.isConst = true) : t.asConst = t := by
  cases t with
  | _ =>
    rw [isConst] at h
    rw [h, asConst]

theorem constElement_of_isConst (h : t.innermost.isConst = true) : t.constElement = t := by
  induction t with
  | array t b c ih => rw [constElement, ih h]
  | _ => exact asConst_of_isConst h

/-! ### What is written of a constant array -/

/-- The `const` of an array is written nowhere. -/
theorem typeIdAround_plug_asConst (k : TypeContext) (h : t.isArray = true) :
    (k.plug t.asConst).takesSuffix = (k.plug t).takesSuffix ∧
      (k.plug t.asConst).typeIdAround = (k.plug t).typeIdAround := by
  induction k with
  | gap =>
    cases t with
    | array t b c =>
      refine ⟨rfl, ?_⟩
      funext rest suffixed
      simp only [TypeContext.plug, asConst, typeIdAround]
    | _ => cases h
  | pointer k c ih | reference k c ih =>
    refine ⟨rfl, ?_⟩
    funext rest suffixed
    simp only [TypeContext.plug, typeIdAround, ih.1, ih.2]
  | array k b c ih | returns k ps c ih =>
    refine ⟨rfl, ?_⟩
    funext rest suffixed
    simp only [TypeContext.plug, typeIdAround, ih.2]
  | param r before k after c ih =>
    refine ⟨rfl, ?_⟩
    funext rest suffixed
    simp only [TypeContext.plug, typeIdAround, paramTexts_eq_map, List.map_append, List.map_cons,
      text, typeId, ih.2]

/-- An array that is made `const`, wherever it stands in a type, is written like the array that is
not.  That is how the type with constant elements is written only if they have been constant
before. -/
theorem text_constArray (k : TypeContext) (h : t.isArray = true)
    (helement : t.innermost.takesConst = true) :
    (k.plug t.asConst).typeId = (k.plug t).typeId ∧
      ((k.plug t.asConst).text = (k.plug t.constElement).text ↔ t.innermost.isConst = true) := by
  have hsame : (k.plug t.asConst).typeId = (k.plug t).typeId :=
    congrFun (congrFun (typeIdAround_plug_asConst k h).2 "") false
  refine ⟨hsame, ?_⟩
  rw [text, hsame]
  constructor
  · intro htext
    refine Bool.of_not_eq_false fun hconst => ?_
    have hlength := ((widens_constElement helement hconst).plug k).length "" false
    have : (k.plug t).text.length = (k.plug t.constElement).text.length := congrArg _ htext
    rw [text, text, typeId, typeId] at this
    omega
  · intro hconst
    rw [constElement_of_isConst hconst]
    rfl

/-- A parameter that is a reference to a constant array of arrays. -/
theorem text_constArray_parameter :
    let t : Ty := ((ofPrimitive .int).arrayOf (some 3)).arrayOf (some 2)
    let k : TypeContext := .param (ofPrimitive .void) [ofPrimitive .bool] (.reference .gap false) []
      false
    t.isArray = true ∧ t.innermost.takesConst = true ∧ t.innermost.isConst = false ∧
      (k.plug t.asConst).typeId = (k.plug t).typeId ∧
      (k.plug t).text = "void(bool, int (&)[2][3])" ∧
      (k.plug t.asConst).text ≠ (k.plug t.constElement).text := by
  intro t k
  obtain ⟨hsame, hiff⟩ := text_constArray (t := t) k rfl rfl
  exact ⟨rfl, rfl, rfl, hsame, rfl, fun htext => Bool.false_ne_true (hiff.mp htext)⟩

/-- A cast to a pointer to a constant array is written as one to a modifiable array. -/
theorem text_cast_constArray :
    let t : Ty := (ofPrimitive .int).arrayOf (some 4)
    let k : TypeContext := .pointer .gap false
    let p : Element := ⟨1, ⟨[], "p"⟩, ⟨1, (ofPrimitive .void).ptr⟩, .variable⟩
    t.isArray = true ∧ t.innermost.takesConst = true ∧
      (k.plug t.asConst).text = "int (*)[4]" ∧ (k.plug t.constElement).text = "const int (*)[4]" ∧
      (Expr.cast ⟨2, k.plug t.asConst⟩ (.access p)).text = "(int (*)[4])p" ∧
      (k.plug t.asConst).text ≠ (k.plug t.constElement).text := by
  intro t k p
  have htext : (k.plug t.asConst).text = "int (*)[4]" := rfl
  have htext' : (k.plug t.constElement).text = "const int (*)[4]" := rfl
  refine ⟨rfl, rfl, htext, htext', rfl, ?_⟩
  rw [htext, htext']
  decide

end Ty

end ExprEmit
