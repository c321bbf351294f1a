import AslBuild.Shell.Syntax
set_option autoImplicit false

/-!
# Commands as they are listed

A command that was read is listed in one form, however it was laid out: every body of a compound
command has lines of its own, and is indented.

## Main definitions

* `AslBuild.Shell.Command.listed` — a command as it is listed.
* `AslBuild.Shell.Command.head` — the part of it that is run first.
* `AslBuild.Shell.listedFunction` — a function as it is listed.
-/

namespace AslBuild.Shell

/-- The blanks at the start of a line. -/
def indentation (depth : Nat) : String := String.ofList (List.replicate (4 * depth) ' ')

/-- The start of a line, behind the end of another one. -/
def newLine (depth : Nat) : String := "\n" ++ indentation depth

/-- A list of commands with the sign at its end, if it needs one. -/
def closed (text : String) : String :=
  if text.endsWith "&" || text.endsWith "\n" then text else text ++ ";"

/-- The redirections behind a command. -/
def listedRedirects (redirects : List (Redirect Word)) : String :=
  " ".intercalate ((redirects.map (·.spelled)).filter (!·.isEmpty))

/-- A text with another one behind it, if there is one. -/
def followed (text more : String) : String :=
  if more.isEmpty then text else if text.isEmpty then more else text ++ " " ++ more

/-- What is put behind the command of a clause. -/
def After.sign : After → String
  | .stop => ";;"
  | .fall => ";&"
  | .go => ";;&"

/-- Commands one after the other. Inside of a function, each has a line of its own. -/
def joinItems (inside : Bool) (depth : Nat) : List String → String
  | [] => ""
  | [text] => text
  | text :: texts =>
    text ++ (if text.endsWith " &" then " " else ";" ++ if inside then newLine depth else " ") ++
      joinItems inside depth texts

/-- What stands between two lines of a compound command. -/
def block (depth : Nat) (start body finish : String) : String :=
  start ++ newLine (depth + 1) ++ body ++ newLine depth ++ finish

/-- The body of a loop. -/
def loopText (depth : Nat) (start body : String) : String :=
  block depth (start ++ newLine depth ++ "do") (closed body) "done"

/-- Whether a command stands in braces. -/
def Command.isGroup : Command → Bool
  | .group _ => true
  | .redirected _ (.group _) _ => true
  | _ => false

mutual

/-- A command as it is listed, where it starts at so many levels of indentation. Inside of a function,
each command of a list has a line of its own. -/
def Command.listed (inside : Bool) (depth : Nat) : Command → String
  | .nothing => ""
  | .simple _ _ _ spelled redirects => followed spelled (listedRedirects redirects)
  | .pipe stages => " | ".intercalate (listedAll inside depth stages)
  | .background body => body.listed inside depth ++ " &"
  | .sequence items => joinItems inside depth (listedAll inside depth items)
  | .group body =>
    if inside then block depth "\x7b " (body.listed inside (depth + 1)) "\x7d"
    else "\x7b " ++ closed (body.listed inside depth) ++ " \x7d"
  | .both first second => first.listed inside depth ++ " && " ++ second.listed inside depth
  | .either first second => first.listed inside depth ++ " || " ++ second.listed inside depth
  | .not body => "! " ++ body.listed inside depth
  | .apart _ body redirects =>
    followed ("( " ++ body.listed inside depth ++ " )") (listedRedirects redirects)
  | .redirected _ body redirects => followed (body.listed inside depth) (listedRedirects redirects)
  | .choice test yes no =>
    let others := no.listed inside (depth + 1)
    let start := "if " ++ closed (test.listed inside depth) ++ " then"
    let yes := closed (yes.listed inside (depth + 1))
    if others.isEmpty then block depth start yes "fi"
    else block depth (block depth start yes "else") (closed others) "fi"
  | .loop whileSuccess test body =>
    block depth ((if whileSuccess then "while " else "until ") ++
      closed (test.listed inside depth) ++ " do") (closed (body.listed inside (depth + 1))) "done"
  | .each _ name _ spelled body =>
    loopText depth ("for " ++ name ++ " in " ++ spelled ++ ";") (body.listed inside (depth + 1))
  | .menu _ name _ spelled body =>
    loopText depth ("select " ++ name ++ " in " ++ spelled ++ ";")
      (body.listed inside (depth + 1))
  | .select _ _ spelled clauses =>
    "case " ++ spelled ++ " in " ++ String.join (listedClauses inside depth clauses) ++
      newLine depth ++ "esac"
  | .define name body =>
    let start := "function " ++ name ++ " () \n" ++ indentation depth
    if body.isGroup then start ++ body.listed true depth
    else start ++ block depth "\x7b " (body.listed true (depth + 1)) "\x7d"
  | .condition _ _ spelled => spelled
  | .calculation _ _ spelled => spelled
  | .count _ _ _ _ spelled body =>
    loopText depth ("for ((" ++ spelled ++ "))") (body.listed inside (depth + 1))

/-- Commands as they are listed. -/
def listedAll (inside : Bool) (depth : Nat) : List Command → List String
  | [] => []
  | c :: cs => c.listed inside depth :: listedAll inside depth cs

/-- The clauses of a selection as they are listed. -/
def listedClauses (inside : Bool) (depth : Nat) : List (Clause Word Command) → List String
  | [] => []
  | ⟨_, spelled, body, after⟩ :: clauses =>
    (newLine (depth + 1) ++ block (depth + 1) (spelled ++ ")") (body.listed inside (depth + 2))
      after.sign) :: listedClauses inside depth clauses

end

/-- The part of a command that is run first. -/
def Command.head : Command → String
  | .each _ name _ spelled _ => "for " ++ name ++ " in " ++ spelled
  | .menu _ name _ spelled _ => "select " ++ name ++ " in " ++ spelled
  | .select _ _ spelled _ => "case " ++ spelled ++ " in "
  | c => c.listed false 0

/-- A function as it is listed. -/
def listedFunction (name : String) (body : Command) : String :=
  ((Command.define name body).listed true 0).drop 9 |>.toString

end AslBuild.Shell
