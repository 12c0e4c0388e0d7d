/-
**Printing programs.**

A program is printed as a listing or as a JSON document, in colour or without. The format is chosen
by its name in any case; no name chooses the listing.

* `Program.output`: the printed program.
-/

import DisplayFilter.JsonValue.Colored
import DisplayFilter.Program.Json
import DisplayFilter.Program.Listing
import DisplayFilter.Text.Lower

namespace DisplayFilter

/-- A format in which programs are printed. -/
inductive OutputFormat where
  | listing
  | json
deriving DecidableEq, Repr

/-- The format of a name. -/
def OutputFormat.ofName? (name : String) : Option OutputFormat :=
  match Text.lowerCase name with
  | "" | "text" => some .listing
  | "json" => some .json
  | _ => none

/-- The JSON document of a program on several lines. -/
def Program.outputJson (program : Program) (color : Bool) : Except Fault String :=
  match program.toJson with
  | .error error => .error (nestedError error)
  | .ok document => .ok ((if color then document.colored else document.indented) ++ "\n")

/-- The program in the format of a name. -/
def Program.output (program : Program) (color : Bool) (format : String) : Except Fault String :=
  match OutputFormat.ofName? format with
  | some .listing => .ok (program.listing color)
  | some .json => program.outputJson color
  | none => .error (.plain ("unknown output format: " ++ format))

end DisplayFilter
