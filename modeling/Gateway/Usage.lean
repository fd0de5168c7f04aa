import Gateway.Flag

/-!
# Usage text

The text that explains the flags: one line for each flag, grouped, with the explanations in one
column.
-/

namespace Gateway.Usage

/-- Where the configuration is documented. -/
def documentation : String := "https://resgate.io/docs/get-started/configuration/"

/-- A text filled up with spaces to a width. -/
def padTo (width : Nat) (s : String) : String :=
  s ++ String.ofList (List.replicate (width - s.length) ' ')

/-- The spellings of a flag. -/
def spelling (f : Flag) : String :=
  (match f.entry.short with
    | some c => "-" ++ String.ofList [c] ++ ", "
    | none => "    ") ++
  "--" ++ f.entry.long ++
  (match f.entry.placeholder with
    | some p => " <" ++ p ++ ">"
    | none => "")

/-- A line of the text: spellings and what they do. -/
def line (spelling help : String) : String := "    " ++ padTo 33 spelling ++ help ++ "\n"

/-- The lines of a group, under its heading. -/
def group (g : Flag.Group) : String :=
  "\n" ++ g.title ++ ":\n" ++
  String.join ((Flag.all.filter fun f => f.entry.group = g).map fun f =>
    line (spelling f) f.entry.help) ++
  (if g = .logging then line "-DV" "Debug and trace" else "")

/-- The usage text. -/
def text : String :=
  "\nUsage: resgate [options]\n" ++ group .server ++ group .logging ++ group .common ++
  "\n" ++ padTo 37 "Configuration Documentation:" ++ documentation ++ "\n"

end Gateway.Usage
