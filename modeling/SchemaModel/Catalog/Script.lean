import SchemaModel.Catalog.Server

/-!
# `SchemaModel.Catalog.Script` — a server that answers from a script

A script is a list of replies. A statement is known by a short name, or else by its whole text, and
the first reply for that name and for its arguments is the answer. The script remembers the
statements that it was asked.

## Contents
- `Reply`, `Script`: the replies and the statements so far.
- `reply?`, `respond`: the reply that fits a statement. A statement without one touches no rows.
- `server`: the script as a server.
-/

namespace SchemaModel

/-- What a scripted server answers to a statement. -/
structure Reply where
  /-- The name of the statement. -/
  query : String
  /-- The arguments that it is for; none means any. -/
  arguments : Option (List Argument)
  rows : List Cells
  affected : Nat
  fails : Bool
  deriving DecidableEq, Repr, Inhabited

/-- No rows. -/
def Reply.empty : Reply := ⟨"", none, [], 0, false⟩

/-- A scripted server. -/
structure Script where
  /-- Texts of statements with their names. -/
  names : List (String × String)
  replies : List Reply
  /-- The statements so far, in order. -/
  asked : List Statement
  deriving DecidableEq, Repr, Inhabited

namespace Script

/-- The name of a statement; one that has none goes by its text. -/
def nameOf (s : Script) (sql : String) : String := (s.names.lookup sql).getD sql

/-- The first reply for a name and arguments. -/
def reply? (s : Script) (name : String) (arguments : List Argument) : Option Reply :=
  s.replies.find? fun r => r.query == name && r.arguments.all fun a => a == arguments

/-- The reply that fits, when it is no failure. -/
def succeed (reply : Option Reply) : Exchange Script Reply :=
  match reply with
  | some r => if r.fails then throw "the script fails here" else return r
  | none => return .empty

/-- Takes a statement down and answers it. -/
def respond (statement : Statement) : Exchange Script Reply := do
  let s ← get
  set { s with asked := s.asked ++ [statement] }
  succeed (s.reply? (s.nameOf statement.sql) statement.arguments)

/-- The name under which a script answers whether the server is there. -/
def pingName : String := "ping"

/-- The script as a server. -/
def server : Server Script where
  query := fun statement => Reply.rows <$> respond statement
  execute := fun sql => Reply.affected <$> respond ⟨sql, []⟩
  ping := do
    let _ ← succeed ((← get).reply? pingName [])
    return ()

/-- The statements so far, which the script forgets. -/
def takeAsked (s : Script) : List Statement × Script := (s.asked, { s with asked := [] })

end Script

end SchemaModel
