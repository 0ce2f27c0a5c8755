import ExprEmit.Proofs.Command.Attempt
import ExprEmit.Proofs.Document.Names
import ExprEmit.Proofs.Document.RoundTrip

/-!
# The actions agree

The three actions load a model in the same way and differ only in what they do with it.  Loading is
the only thing that can fail, since the registry refuses nothing and a file takes every byte, so the
actions all fail, and tell the same, or all succeed (`actions_agree`).

`Disk.Ends` says how every command line for an action ends, with the log lines, which depend on the
filter, told apart from the rest of the error stream.  An action on named files always has a command
line (`exists_words`).
-/

namespace ExprEmit.Command

open Attempt

/-! ### Command lines -/

namespace Action

/-- The file that a model is read from. -/
def input : Action → String
  | emit input _ _ | deps input | check input => input

/-- The file that is written, if there is one. -/
def output? : Action → Option String
  | emit _ output _ => output
  | deps _ | check _ => none

end Action

namespace Arguments

variable (a : Arguments) (words : List String)

/-- Behind two hyphens a word is no option, whatever it starts with. -/
theorem sort_separated (input : String) : a.sort false ["--", input] = some (a.addPlain input) := by
  simp [sort]

theorem sort_deps (h : a.deps = false) :
    a.sort false ("--deps" :: words) = ({ a with deps := true } : Arguments).sort false words := by
  simp [sort, takeLong, setDeps, h]

/-- A path that starts with a hyphen would not be taken from a word of its own. -/
theorem sort_output (path : String) (h : a.output = none) :
    a.sort false (("-o=" ++ path) :: words) =
      ({ a with output := some path } : Arguments).sort false words := by
  simp [sort, takeLetters, setOutput, h]

theorem exists_sort (input : String) (output : Option String) (deps : Bool) :
    ∃ words, empty.sort false words = some ⟨[input], output, deps, false⟩ := by
  have hbehind : ∃ words, ({ empty with deps := deps } : Arguments).sort false words =
      some ⟨[input], output, deps, false⟩ := by
    cases output with
    | none => exact ⟨_, sort_separated _ input⟩
    | some path => exact ⟨_, (sort_output _ _ path rfl).trans (sort_separated _ input)⟩
  cases deps with
  | false => exact hbehind
  | true =>
    obtain ⟨words, hwords⟩ := hbehind
    exact ⟨_, (sort_deps _ words rfl).trans hwords⟩

end Arguments

/-- The words behind the name of an action are sorted out for it. -/
theorem ofWords_eq_some {name : String} {words : List String} {a : Arguments} {action : Action}
    (hname : asksForDetail name = false) (hsort : Arguments.empty.sort false words = some a)
    (hpaths : a.hasPaths = true) (haction : a.action? name = some action) :
    Invocation.ofWords (name :: words) = some ⟨action, a.verbose⟩ := by
  simp [Invocation.ofWords, guard, hname, hsort, hpaths, haction]

/-- Every action on named files can be asked for. -/
theorem exists_words (a : Action) (hinput : a.input ≠ "") (houtput : a.output? ≠ some "") :
    ∃ words, Invocation.ofWords words = some ⟨a, false⟩ := by
  have hpaths : ∀ deps, (⟨[a.input], a.output?, deps, false⟩ : Arguments).hasPaths = true := by
    intro deps
    cases hpath : a.output? with
    | none => simp [Arguments.hasPaths, hinput]
    | some path =>
      have hne : path ≠ "" := fun heq => houtput (heq ▸ hpath)
      simp [Arguments.hasPaths, hinput, hne]
  cases a with
  | check input =>
    obtain ⟨words, hsort⟩ := Arguments.exists_sort input none false
    have hname : asksForDetail "check" = false := rfl
    exact ⟨_, ofWords_eq_some hname hsort (hpaths false) rfl⟩
  | deps input =>
    obtain ⟨words, hsort⟩ := Arguments.exists_sort input none false
    have hname : asksForDetail "deps" = false := rfl
    exact ⟨_, ofWords_eq_some hname hsort (hpaths false) rfl⟩
  | emit input output deps =>
    obtain ⟨words, hsort⟩ := Arguments.exists_sort input output deps
    have hname : asksForDetail "emit" = false := rfl
    exact ⟨_, ofWords_eq_some hname hsort (hpaths deps) rfl⟩

/-! ### Endings -/

/-- How a run of the program ends, its log lines aside. -/
structure Ending where
  code : UInt32
  /-- The files that it leaves. -/
  nodes : List (Location × Node)
  /-- What it has printed to the standard output. -/
  printed : String
  /-- What it has told on the error stream behind its log lines. -/
  told : String

/-- Whether every command line that asks for an action ends in the same way on a disk, whatever is
to be logged. -/
def Disk.Ends (d : Disk) (a : Action) (ending : Ending) : Prop :=
  ∀ (words : List String) (asked : Option String) (verbose : Bool),
    Invocation.ofWords words = some ⟨a, verbose⟩ →
      let (f, complaints) := Filter.choose asked verbose
      ∃ records, run Disk.host words asked d =
        (ending.code, ⟨ending.nodes, d.out ++ ending.printed,
          d.err ++ String.join complaints ++ Disk.logText f records ++ ending.told⟩)

/-- What is told of a failure in the end. -/
def finalLine (failure : Failure) : String := "error: " ++ ": ".intercalate failure ++ "\n"

/-- Actions end as they do on a disk with complaints. -/
theorem Disk.ends_of_runAction {d : Disk} {a : Action} {ending : Ending}
    (h : ∀ (f : Filter) (e : Disk), e.nodes = d.nodes → ∃ records, runAction Disk.host f a e =
      (ending.code, ⟨ending.nodes, e.out ++ ending.printed,
        e.err ++ Disk.logText f records ++ ending.told⟩)) : d.Ends a ending := by
  intro words asked verbose hwords
  obtain ⟨records, hrun⟩ := h (Filter.choose asked verbose).1
    (d.told (String.join (Filter.choose asked verbose).2)) rfl
  refine ⟨records, ?_⟩
  unfold run
  rw [hwords]
  exact hrun

section

variable {f : Filter} {a : Action} {d e : Disk}

theorem state_bind {α β : Type} (x : StateM Disk α) (g : α → StateM Disk β) (d : Disk) :
    (x >>= g) d = g (x d).1 (x d).2 := rfl

/-- After an action that succeeds the exit code is zero. -/
theorem runAction_of_ok (h : (act Disk.host f a).on d = (.ok ⟨⟩, e)) :
    runAction Disk.host f a d = (0, e) := by
  have hact : (act Disk.host f a).run d = (.ok ⟨⟩, e) := h
  rw [runAction, state_bind, hact]
  rfl

/-- After an action that fails the exit code is one, and its failure is told in the end. -/
theorem runAction_of_error {failure : Failure}
    (h : (act Disk.host f a).on d = (.error failure, e)) :
    runAction Disk.host f a d = (1, e.told (finalLine failure)) := by
  have hact : (act Disk.host f a).run d = (.error failure, e) := h
  rw [runAction, state_bind, hact]
  rfl

end

/-- An action that succeeds, and does nothing else to the error stream than log. -/
theorem Disk.ends_of_ok {d : Disk} {a : Action} {nodes : List (Location × Node)} {printed : String}
    (h : ∀ (f : Filter) (e : Disk), e.nodes = d.nodes → ∃ records, (act Disk.host f a).on e =
      (.ok ⟨⟩, ⟨nodes, e.out ++ printed, (e.logged f records).err⟩)) :
    d.Ends a ⟨0, nodes, printed, ""⟩ := by
  refine Disk.ends_of_runAction fun f e he => ?_
  obtain ⟨records, hact⟩ := h f e he
  refine ⟨records, ?_⟩
  rw [runAction_of_ok hact, String.append_empty]
  rfl

/-! ### Failures -/

/-- Every action begins with a note and with loading the model. -/
theorem act_eq_bind (f : Filter) (a : Action) : ∃ message rest,
    act Disk.host f a = (do
      note Disk.host f .info message
      loadModel Disk.host f a.input >>= rest) := by
  cases a with
  | emit input output deps => exact ⟨_, _, rfl⟩
  | deps input => exact ⟨_, _, rfl⟩
  | check input => exact ⟨_, _, rfl⟩

/-- Without a model all actions fail and tell the same, and none of them has touched a file. -/
theorem Disk.ends_of_not_loads {d : Disk} {input : String} (h : ¬∃ m, d.Loads input m) :
    ∃ diagnostic failure, ∀ a : Action, a.input = input →
      d.Ends a ⟨1, d.nodes, "", diagnostic ++ finalLine failure⟩ := by
  obtain ⟨diagnostic, failure, hload⟩ := on_loadModel_of_not_loads h
  refine ⟨diagnostic, failure, fun a ha => Disk.ends_of_runAction fun f e he => ?_⟩
  obtain ⟨message, rest, hact⟩ := act_eq_bind f a
  let noted := e.logged f [⟨.info, .command, message⟩]
  have hnote : (note Disk.host f .info message).on e = (.ok ⟨⟩, noted) := rfl
  obtain ⟨records, hloaded⟩ := hload f noted he
  have hrun : (act Disk.host f a).on e =
      (.error failure, (noted.logged f records).told diagnostic) := by
    rw [hact, on_bind, hnote]
    dsimp only
    rw [on_bind, ha, hloaded]
  refine ⟨⟨.info, .command, message⟩ :: records, ?_⟩
  rw [runAction_of_error hrun, Disk.logged_logged, Disk.told_told, String.append_empty, ← he]
  rfl

/-! ### Successes -/

theorem Disk.Loads.congr {d e : Disk} {input : String} {m : Loaded} (h : d.Loads input m)
    (he : e.nodes = d.nodes) : e.Loads input m :=
  ⟨(Disk.read_congr he input).trans h.read, h.parsed, h.declared, h.built⟩

/-- With a model the rest of an action goes on with its expressions. -/
theorem on_loaded {d e : Disk} {input : String} {m : Loaded} (h : d.Loads input m)
    (he : e.nodes = d.nodes) (f : Filter) (message : String) {β : Type}
    (rest : List Expr × Nat → Attempt (StateM Disk) β) :
    ∃ records, (do
      note Disk.host f .info message
      loadModel Disk.host f input >>= rest : Attempt (StateM Disk) β).on e =
        (rest (m.exprs, m.fresh)).on (e.logged f records) := by
  let noted := e.logged f [⟨.info, .command, message⟩]
  have hnote : (note Disk.host f .info message).on e = (.ok ⟨⟩, noted) := rfl
  have hloads : noted.Loads input m := h.congr he
  obtain ⟨records, hrest⟩ := on_bind_of_logs (g := rest) (logs_loadModel hloads f)
  refine ⟨⟨.info, .command, message⟩ :: records, ?_⟩
  rw [on_bind, hnote]
  dsimp only
  rw [hrest, Disk.logged_logged]
  rfl

/-- With a model the rest of an action that generates it goes on with a unit that has no errors. -/
theorem on_generated {d e : Disk} {input : String} {m : Loaded} (h : d.Loads input m)
    (he : e.nodes = d.nodes) (f : Filter) (message : String) {β : Type}
    (rest : Generated → Attempt (StateM Disk) β) :
    ∃ records, (do
      note Disk.host f .info message
      let u ← generate Disk.host f (← loadModel Disk.host f input)
      rest u : Attempt (StateM Disk) β).on e =
        (rest (unitOf m.exprs)).on (e.logged f records) := by
  obtain ⟨records, hloaded⟩ := on_loaded h he f message fun model =>
    generate Disk.host f model >>= rest
  obtain ⟨more, hgenerated⟩ := on_bind_of_logs (g := rest)
    (logs_generate f m.exprs m.fresh (e.logged f records))
  exact ⟨records ++ more, by rw [hloaded, hgenerated, Disk.logged_logged]⟩

variable {d : Disk} {input : String} {m : Loaded}

theorem Disk.Loads.ends_check (h : d.Loads input m) :
    d.Ends (.check input) ⟨0, d.nodes,
      "success: " ++ toString m.exprs.length ++ " expression(s), no errors found\n", ""⟩ := by
  refine Disk.ends_of_ok fun f e he => ?_
  obtain ⟨records, hrun⟩ := on_loaded h he f _ fun model =>
    liftM (Disk.host.out
      ("success: " ++ toString model.1.length ++ " expression(s), no errors found\n"))
  exact ⟨records, hrun.trans (he ▸ rfl)⟩

theorem Disk.Loads.ends_deps (h : d.Loads input m) :
    d.Ends (.deps input) ⟨0, d.nodes, dependencyLines "" (unitOf m.exprs), ""⟩ := by
  refine Disk.ends_of_ok fun f e he => ?_
  obtain ⟨records, hrun⟩ := on_generated h he f _ fun u => do
    if u.hasErrors then throw (failedExpressions u)
    Disk.host.out (dependencyLines "" u)
  exact ⟨records, hrun.trans (he ▸ rfl)⟩

/-! ### Emitting -/

/-- What is printed behind the texts. -/
def dependencyPart (deps : Bool) (u : Generated) : String :=
  if deps then "=== Dependencies ===\n" ++ dependencyLines "  " u else ""

/-- What `emit` does with a unit, given how it writes the texts. -/
def emitWith (write : Generated → Attempt (StateM Disk) PUnit) (deps : Bool) (u : Generated) :
    Attempt (StateM Disk) PUnit := do
  write u
  if deps then Disk.host.out ("=== Dependencies ===\n" ++ dependencyLines "  " u)
  Disk.host.err (String.join (u.errors.map fun e => "error: " ++ e.message ++ "\n"))
  if u.hasErrors then throw (failedExpressions u)

/-- When the texts have been written, and there are no errors, `emit` ends with the dependencies. -/
theorem on_emitWith {write : Generated → Attempt (StateM Disk) PUnit} {es : List Expr} {d e : Disk}
    (h : (write (unitOf es)).on d = (.ok ⟨⟩, e)) (deps : Bool) :
    (emitWith write deps (unitOf es)).on d =
      (.ok ⟨⟩, e.printed (dependencyPart deps (unitOf es))) := by
  have hout : ∀ s : String, (liftM (Disk.host.out s) : Attempt (StateM Disk) PUnit).on e =
      (.ok ⟨⟩, e.printed s) := fun _ => rfl
  have hend : ∀ e : Disk, (do
      Disk.host.err (String.join ((unitOf es).errors.map fun e => "error: " ++ e.message ++ "\n"))
      if (unitOf es).hasErrors then throw (failedExpressions (unitOf es)) :
        Attempt (StateM Disk) PUnit).on e = (.ok ⟨⟩, e) := fun e =>
    congrArg (Prod.mk _) e.told_empty
  rw [emitWith, on_bind, h]
  cases deps with
  | true =>
    dsimp only
    rw [if_pos rfl, on_bind, hout]
    exact hend _
  | false =>
    have hnothing : dependencyPart false (unitOf es) = "" := rfl
    rw [hnothing, Disk.printed_empty]
    exact hend e

theorem Disk.Loads.ends_emit (h : d.Loads input m) (deps : Bool) :
    d.Ends (.emit input none deps)
      ⟨0, d.nodes, texts m.exprs ++ dependencyPart deps (unitOf m.exprs), ""⟩ := by
  refine Disk.ends_of_ok fun f e he => ?_
  obtain ⟨records, hrun⟩ := on_generated h he f _
    (emitWith (fun u => Disk.host.out (String.join u.pieces)) deps)
  have hwrite : (liftM (Disk.host.out (String.join (unitOf m.exprs).pieces)) :
      Attempt (StateM Disk) PUnit).on (e.logged f records) =
        (.ok ⟨⟩, (e.logged f records).printed (texts m.exprs)) := by
    rw [join_pieces_unitOf]
    rfl
  refine ⟨records, hrun.trans ?_⟩
  rw [on_emitWith hwrite, ← String.append_assoc]
  exact he ▸ rfl

/-- Writing to a file fills it with the texts. -/
theorem on_writeFile {e : Disk} {path : String} {l : Location} (h : e.Writable path l) (f : Filter)
    (es : List Expr) : ∃ records, (writeFile Disk.host f path (unitOf es)).on e =
      (.ok ⟨⟩, ((e.put l (.file (Text.bytes (texts es)))).logged f records).printed
        ("success: Wrote " ++ Text.quoted path ++ "\n")) := by
  let noted := e.logged f [⟨.debug, .command, "Writing expressions to " ++ Text.quoted path⟩]
  have hnote : (note Disk.host f .debug ("Writing expressions to " ++ Text.quoted path)).on e =
      (.ok ⟨⟩, noted) := rfl
  have hwritable : noted.Writable path l :=
    (Disk.writable_congr (d := e) (e := noted) rfl path l).mp h
  have hcreate : (liftM (Disk.host.create path) : Attempt (StateM Disk) _).on noted =
      (.ok (.ok ⟨⟩), noted.put l (.file [])) :=
    congrArg (fun r => (Except.ok r.1, r.2)) hwritable.create
  obtain ⟨hresult, hfile⟩ := hwritable.deliver (unitOf es)
  rw [join_pieces_unitOf] at hfile
  have hdeliver : (liftM (Disk.host.deliver path (unitOf es)) : Attempt (StateM Disk) _).on
      (noted.put l (.file [])) = (.ok ((noted.put l (.file [])).deliver path (unitOf es)).1,
        ((noted.put l (.file [])).deliver path (unitOf es)).2) := rfl
  unfold writeFile
  rw [on_bind, hnote]
  dsimp only
  rw [on_bind, hcreate]
  dsimp only
  rw [on_bind, hdeliver, hfile]
  dsimp only
  rw [on_bind, on_report]
  dsimp only
  rw [hresult]
  have hput : ∀ n, noted.put l n = (e.put l n).logged f _ := fun _ => rfl
  rw [hput, Disk.logged_logged]
  exact ⟨_, rfl⟩

theorem Disk.Loads.ends_emit_file (h : d.Loads input m) {path : String} {l : Location}
    (hpath : d.Writable path l) (deps : Bool) :
    d.Ends (.emit input (some path) deps)
      ⟨0, (d.put l (.file (Text.bytes (texts m.exprs)))).nodes,
        "success: Wrote " ++ Text.quoted path ++ "\n" ++ dependencyPart deps (unitOf m.exprs),
        ""⟩ := by
  refine Disk.ends_of_ok fun f e he => ?_
  obtain ⟨records, hrun⟩ := on_generated h he f _
    (emitWith (fun u => writeFile Disk.host f path u) deps)
  have hwritable : (e.logged f records).Writable path l :=
    (Disk.writable_congr (d := d) (e := e.logged f records) he.symm path l).mp hpath
  obtain ⟨more, hwrite⟩ := on_writeFile hwritable f m.exprs
  refine ⟨records ++ more, hrun.trans ?_⟩
  rw [on_emitWith hwrite, ← Disk.logged_logged, ← String.append_assoc]
  have hnodes : (e.put l (.file (Text.bytes (texts m.exprs)))).nodes =
      (d.put l (.file (Text.bytes (texts m.exprs)))).nodes := by
    rw [Disk.put, Disk.put, he]
  exact hnodes ▸ rfl

/-! ### Agreement -/

/-- Loading keeps the expressions in their order. -/
theorem Disk.Loads.forall₂ (h : d.Loads input m) :
    List.Forall₂ (fun x e => ∃ k k', m.arena.buildExpr x k = .ok (e, k'))
      m.document.expressions m.exprs := by
  have hsettles := Arena.settles_ofDocument m.document
  rw [h.declared] at hsettles
  obtain ⟨-, -, hexpressions⟩ := hsettles
  rw [← hexpressions]
  exact Arena.forall₂_buildEach h.built

/-- Whatever there is at the path of the model, the actions agree.

If a model can be read, loaded and built from it, all of them succeed: `emit` prints the texts of
the expressions in the order of the document, and if asked to, their dependencies behind a heading;
`deps` prints the same dependencies without the blanks in front of them; and with an output file
`emit` writes to it what it would have printed.

Otherwise all of them fail, tell the same, and leave all files as they are. -/
theorem actions_agree (d : Disk) (input : String) :
    (∃ m, d.Loads input m ∧
      List.Forall₂ (fun x e => ∃ k k', m.arena.buildExpr x k = .ok (e, k'))
        m.document.expressions m.exprs ∧
      let printed := String.join (m.exprs.map fun e => e.text ++ "\n")
      let entries := (DependencyList.empty.insertAll (m.exprs.flatMap Expr.requirements)).entries
      let lines := fun indent => String.join (entries.map fun r => indent ++ r.text ++ "\n")
      let part := fun deps => if deps then "=== Dependencies ===\n" ++ lines "  " else ""
      d.Ends (.check input) ⟨0, d.nodes,
        "success: " ++ toString m.exprs.length ++ " expression(s), no errors found\n", ""⟩ ∧
      d.Ends (.deps input) ⟨0, d.nodes, lines "", ""⟩ ∧
      (∀ deps, d.Ends (.emit input none deps) ⟨0, d.nodes, printed ++ part deps, ""⟩) ∧
      ∀ path l deps, d.Writable path l →
        d.Ends (.emit input (some path) deps)
          ⟨0, (d.put l (.file (Text.bytes printed))).nodes,
            "success: Wrote " ++ Text.quoted path ++ "\n" ++ part deps, ""⟩) ∨
    (¬∃ m, d.Loads input m) ∧ ∃ diagnostic failure, ∀ a : Action, a.input = input →
      d.Ends a ⟨1, d.nodes, "", diagnostic ++ finalLine failure⟩ := by
  by_cases hloads : ∃ m, d.Loads input m
  · obtain ⟨m, hm⟩ := hloads
    left
    refine ⟨m, hm, hm.forall₂, hm.ends_check, hm.ends_deps, hm.ends_emit, ?_⟩
    exact fun path l deps hpath => hm.ends_emit_file hpath deps
  · right
    exact ⟨hloads, Disk.ends_of_not_loads hloads⟩

/-- A model with a pointer that is dereferenced: `emit` writes the expression to a file and prints
what it depends on. -/
theorem actions_agree_file :
    let document : Document :=
      ⟨[⟨"Widget", .class_⟩], [⟨"w", .pointer (.named "Widget"), .variable⟩],
        [.unary .deref (.access "w")]⟩
    let d := Disk.empty.withFile "model.json" (Text.bytes document.json)
    (∃ m, d.Loads "model.json" m) ∧ d.Writable "out.cpp" ["out.cpp"] ∧
      d.Ends (.emit "model.json" (some "out.cpp") true)
        ⟨0, (d.withFile "out.cpp" (Text.bytes "*w\n")).nodes,
          "success: Wrote \"out.cpp\"\n" ++
            "=== Dependencies ===\n  element w\n  type Widget (declaration)\n", ""⟩ := by
  intro document d
  have hread : d.read "model.json" = .ok (Text.bytes document.json) :=
    Disk.read_withFile (by decide) _
  have hnesting : Json.nesting document.json.toList ≤ Json.Reader.maxDepth := by
    simp only [document, Document.json, TypeEntry.json, ElementEntry.json, ExprTerm.json,
      ExprTerm.jsonEach, TypeTerm.json, Json.keyText, Keyed.key, List.map_cons, List.map_nil,
      Json.toList_objectOf, Json.toList_listOf, Json.toList_quoted, Json.memberChars,
      String.reduceToList]
    decide +kernel
  have hparsed : Document.parse document.json = .ok document :=
    parseWith_of_represents (document.represents (by decide)) hnesting
  obtain ⟨arena, exprs, fresh, hdeclared, hbuilt, htexts, hpart⟩ :
      ∃ arena exprs fresh, (Arena.ofDocument document).1 = .ok arena ∧
        arena.build = .ok (exprs, fresh) ∧ texts exprs = "*w\n" ∧
        dependencyPart true (unitOf exprs) =
          "=== Dependencies ===\n  element w\n  type Widget (declaration)\n" :=
    ⟨_, _, _, rfl, rfl, by decide +kernel, by decide +kernel⟩
  have hloads : d.Loads "model.json" ⟨document.json, document, arena, exprs, fresh⟩ :=
    ⟨hread, hparsed, hdeclared, hbuilt⟩
  have hnothing : d.node? ["out.cpp"] = none := rfl
  have hwritable : d.Writable "out.cpp" ["out.cpp"] := by
    refine Disk.writable_of_isName (by decide) fun n hn => ?_
    rw [hnothing] at hn
    cases hn
  refine ⟨⟨_, hloads⟩, hwritable, ?_⟩
  rcases actions_agree d "model.json" with ⟨m, hm, -, -, -, -, hfile⟩ | ⟨hnone, -⟩
  · obtain rfl := hm.unique hloads
    rw [← htexts, ← hpart]
    exact hfile "out.cpp" ["out.cpp"] true hwritable
  · exact absurd ⟨_, hloads⟩ hnone

end ExprEmit.Command
