import ExprEmit.Log
import ExprEmit.Regex.Parse

/-!
# Log filters

Which log records the program shows.  A filter is a list of directives, each a level, a path, or both,
as in `info,store::disk=debug`; of the directives whose path a record's path starts with, the longest
decides.  A slash and a regular expression behind the list choose among the messages.
-/

namespace ExprEmit.Command

/-- Shows records from a level on, or none, for the paths that start with `path`, or for all. -/
structure Directive where
  path : Option String
  level : Option Log.Level
deriving DecidableEq, Inhabited

/-- The length of the directive's path in bytes. -/
def Directive.size (d : Directive) : Nat := (d.path.getD "").utf8ByteSize

/-- Which records are shown. -/
structure Filter where
  directives : List Directive
  /-- What a shown message has in it. -/
  messages : Option Regex
deriving Inhabited

namespace Filter

/-! ### Showing -/

/-- Whether the directive speaks about the record. -/
def speaksAbout (r : Log.Record) (d : Directive) : Bool :=
  d.path.all fun p => p.toList.isPrefixOf r.topic.path.toList

/-- The directive with the longer path, and the second if both are as long. -/
def longer (held : Option Directive) (d : Directive) : Option Directive :=
  match held with
  | none => some d
  | some e => if e.size ≤ d.size then some d else some e

/-- Whether the directives let the record's level through. -/
def letsThrough (f : Filter) (r : Log.Record) : Bool :=
  match (f.directives.filter (speaksAbout r)).foldl longer none with
  | some d => d.level.any (·.rank ≤ r.level.rank)
  | none => false

/-- Whether the filter shows the record. -/
def shows (f : Filter) (r : Log.Record) : Bool :=
  f.letsThrough r && f.messages.all (·.occursIn r.message)

/-! ### Reading -/

/-- A level by its name, in any case; `off` is none. -/
def level? (name : String) : Option (Option Log.Level) :=
  match name.toLower with
  | "off" => some none
  | "error" => some (some .error)
  | "warn" => some (some .warn)
  | "info" => some (some .info)
  | "debug" => some (some .debug)
  | "trace" => some (some .trace)
  | _ => none

/-- What one part of a filter's text means: a directive, or the text that makes no sense. -/
def directive (part : String) : Except String Directive :=
  match part.splitOn "=" with
  | [single] =>
    match level? single with
    | some l => .ok ⟨none, l⟩
    | none => .ok ⟨some single, some .trace⟩
  | [path, name] =>
    let name := Text.trimmed name
    if name.isEmpty then .ok ⟨some path, some .trace⟩
    else
      match level? name with
      | some l => .ok ⟨some path, l⟩
      | none => .error name
  | _ => .error part

/-- The complaint about a text that makes no sense. -/
def complaint (about : String) : String := "warning: " ++ about ++ ", ignoring it\n"

/-- The complaint about a part that is no directive. -/
def noDirective (part : String) : String := complaint ("invalid logging spec '" ++ part ++ "'")

/-- Reads parts: the directives, and the complaints about parts that are none. -/
def readParts : List String → List Directive × List String
  | [] => ([], [])
  | p :: ps =>
    let rest := readParts ps
    match directive p with
    | .ok d => (d :: rest.1, rest.2)
    | .error e => (rest.1, noDirective e :: rest.2)

/-- Adds a directive, in the place of an earlier one for the same path, or else at the end. -/
def insert (d : Directive) : List Directive → List Directive
  | [] => [d]
  | e :: es => if e.path = d.path then d :: es else e :: insert d es

/-- The filter that shows records from the level `l` on. -/
def fromLevel (l : Log.Level) : Filter := ⟨[⟨none, some l⟩], none⟩

/-- Reads the directives of a filter, and what there is to complain about them.  Without directives it
shows errors. -/
def ofDirectives (text : String) : Filter × List String :=
  let (directives, complaints) :=
    readParts (((text.splitOn ",").map Text.trimmed).filter fun p => !p.isEmpty)
  let held := directives.foldl (fun held d => insert d held) []
  (if held.isEmpty then fromLevel .error else ⟨held, none⟩, complaints)

/-- Reads a filter, and what there is to complain about it. -/
def ofText (text : String) : Filter × List String :=
  match text.splitOn "/" with
  | [directives] => ofDirectives directives
  | [directives, pattern] =>
    let (f, complaints) := ofDirectives directives
    match Regex.ofString pattern with
    | .ok r => ({ f with messages := some r }, complaints)
    | .error fault =>
      (f, complaints ++ [complaint ("invalid regex filter - " ++ fault.text pattern)])
  | _ =>
    (fromLevel .error, [complaint ("invalid logging spec '" ++ text ++ "' (too many '/'s)")])

/-- The filter to use: what the environment asks for, or else the usual one, which shows more to a
verbose command. -/
def choose (asked : Option String) (verbose : Bool) : Filter × List String :=
  match asked with
  | some text => ofText text
  | none => (fromLevel (if verbose then .debug else .info), [])

end Filter

/-- The name of a level in five columns. -/
def levelColumn (l : Log.Level) : String :=
  l.label ++ String.ofList (List.replicate (5 - l.label.length) ' ')

/-- The lines of a message, with those after the first one indented. -/
def indented (message : String) : String := "\n    ".intercalate (message.splitOn "\n")

/-- A record as the program shows it. -/
def recordLine (r : Log.Record) : String :=
  "[" ++ levelColumn r.level ++ " " ++ r.topic.path ++ "] " ++ indented r.message ++ "\n"

end ExprEmit.Command
