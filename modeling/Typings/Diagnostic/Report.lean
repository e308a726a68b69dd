import Typings.Diagnostic.Basic

/-!
# Reports

A log is the list of diagnostics in the order of their recording. The summary counts the warnings
by construct. The report is the summary, or in verbose mode all warnings by construct and then all
remarks. It is printed line by line, up to a diagnostic that can not be shown.
-/

namespace Typings

/-- The diagnostics recorded so far, oldest first. -/
abbrev Log := List Diagnostic

namespace Log

def warnings (log : Log) : List Diagnostic :=
  log.filter (·.severity == .warning)

/-- The remarks of a log. -/
def infos (log : Log) : List Diagnostic :=
  log.filter (·.severity == .info)

/-! ## Groups -/

/-- Diagnostics of one construct. -/
abbrev Group := Construct × List Diagnostic

/-- Adds a diagnostic to the group of its construct, to a new one at the end if there is none. -/
def addToGroups (groups : List Group) (d : Diagnostic) : List Group :=
  match groups with
  | [] => [(d.construct, [d])]
  | group :: rest =>
    if group.1 = d.construct then (group.1, group.2 ++ [d]) :: rest
    else group :: addToGroups rest d

/-- The warnings by construct, the constructs in the order of their names. -/
def warningsByConstruct (log : Log) : List Group :=
  (log.warnings.foldl addToGroups []).mergeSort fun g h => g.1.name ≤ h.1.name

/-! ## Texts -/

/-- One line that counts the warnings. -/
def summary (log : Log) : String :=
  if log.warnings.isEmpty then "No transpiler warnings."
  else
    "Transpiler warnings: " ++ ", ".intercalate
      (log.warningsByConstruct.map fun (c, ds) => ds.length.repr ++ " " ++ c.name)

/-- The lines that list the warnings. -/
def warningLines (log : Log) : List (Except Malformed String) :=
  if log.warnings.isEmpty then []
  else
    .ok "" :: .ok ("Transpiler warnings (" ++ log.warnings.length.repr ++ "):")
      :: log.warningsByConstruct.flatMap fun (c, ds) =>
        .ok ("  " ++ c.name ++ ": " ++ ds.length.repr ++ " occurrence(s)")
          :: ds.map fun d => d.text.map ("    " ++ ·)

/-- The lines that list the remarks. -/
def infoLines (log : Log) : List (Except Malformed String) :=
  if log.infos.isEmpty then []
  else
    .ok "" :: .ok ("Transpiler info (" ++ log.infos.length.repr ++ "):")
      :: log.infos.map fun d => d.text.map ("  " ++ ·)

def reportLines (verbose : Bool) (log : Log) : List (Except Malformed String) :=
  if verbose then log.warningLines ++ log.infoLines
  else if log.warnings.isEmpty then []
  else [.ok log.summary]

end Log

/-- What is printed, and whether printing came to its end. -/
structure Printout where
  text : String
  ending : Except Malformed Unit

/-- Prints lines, each with a line feed, up to the first one that can not be made. -/
def Printout.ofLines : List (Except Malformed String) → Printout
  | [] => ⟨"", .ok ()⟩
  | .error m :: _ => ⟨"", .error m⟩
  | .ok line :: rest =>
    let more := Printout.ofLines rest
    ⟨line ++ "\n" ++ more.text, more.ending⟩

def Log.report (verbose : Bool) (log : Log) : Printout :=
  .ofLines (log.reportLines verbose)

end Typings
