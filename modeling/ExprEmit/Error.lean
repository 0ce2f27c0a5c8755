import ExprEmit.Text.Quoted

/-!
# Errors

What can go wrong outside a sweep: a document that cannot be loaded, an expression that cannot be
generated, a device that fails.  `message` words each error, and `Error.causes` lists the messages
from the outermost to the innermost.
-/

namespace ExprEmit

/-- A text that is no document, and where it stops being one. -/
structure Malformed where
  /-- What is wrong, with the place. -/
  message : String
  line : Nat
  column : Nat
  /-- The bytes in question, from the first to before the last. -/
  span : Option (Nat × Nat)
deriving DecidableEq, Inhabited

/-- Why a document cannot be loaded. -/
inductive LoadError where
  | malformed (fault : Malformed)
  | unknownElement (name : String)
  | unknownType (name : String)
  | duplicateElement (name : String)
  | duplicateType (name : String)
deriving DecidableEq, Inhabited

/-- The wording of a load error. -/
def LoadError.message : LoadError → String
  | malformed f =>
    "JSONの構文エラー (" ++ toString f.line ++ "行" ++ toString f.column ++ "列): " ++ f.message
  | unknownElement name => "未定義の要素: " ++ name
  | unknownType name => "未定義の型: " ++ name
  | duplicateElement name => "要素 " ++ name ++ " は既に定義されています"
  | duplicateType name => "型 " ++ name ++ " は既に定義されています"

/-- Why the text of a unit is not complete. -/
inductive EmitError where
  /-- A dependency of an expression was refused. -/
  | dependencyFailed (index : Nat)
  /-- An expression was refused after the text `written`. -/
  | emitFailed (index : Nat) (written : String)
  /-- The sink failed. -/
  | sink (reason : String)
deriving DecidableEq, Inhabited

/-- The wording of an emission error. -/
def EmitError.message : EmitError → String
  | dependencyFailed index => "式 #" ++ toString index ++ " の依存関係を登録できませんでした"
  | emitFailed index written =>
    "式 #" ++ toString index ++ " を出力できませんでした（途中まで: " ++ Text.quoted written ++ "）"
  | sink reason => "出力先への書き込みに失敗しました: " ++ reason

/-- An error of the program. -/
inductive Error where
  | load (cause : LoadError)
  | emit (cause : EmitError)
  /-- A file operation failed. -/
  | file (reason : String)
deriving DecidableEq, Inhabited

namespace Error

/-- The wording of an error. -/
def message : Error → String
  | load cause => "モデル読み込みエラー: " ++ cause.message
  | emit cause => "コード生成エラー: " ++ cause.message
  | file reason => "ファイル操作エラー: " ++ reason

/-- The messages of an error and of what caused it. -/
def causes : Error → List String
  | load cause => [message (load cause), cause.message]
  | emit cause => [message (emit cause), cause.message]
  | file reason => [message (file reason)]

/-- The bytes of the document that the error is about, if any. -/
def span? : Error → Option (Nat × Nat)
  | load (.malformed f) => f.span
  | _ => none

end Error

end ExprEmit
