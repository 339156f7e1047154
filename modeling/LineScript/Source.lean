import LineScript.Interpreter

/-!
Running a whole source: a text, or the file that a path names. The lines are executed one after the
other; the first fault ends the run and is reported.
-/

namespace LineScript

open Exec

/-- What can be given as a source. -/
inductive Source where
  | text (t : Text)
  /-- Something that is no text. -/
  | other

namespace Source

/-- The endings of a path that can be run. -/
def extensions : List Text := [".tyrt", ".t"]

/-- Whether a text ends as a path that can be run. -/
def hasExtension (t : Text) : Bool := extensions.any fun ending => ending.isSuffixOf t

/-- Whether a text is taken for a path: it is on one line, and ends as a path that can be run or
holds a slash of either kind. -/
def isPath (t : Text) : Bool :=
  !t.contains '\n' && (hasExtension t || t.contains '/' || t.contains '\\')

/-- What is known of a source before its lines are executed. -/
inductive Loaded where
  /-- The lines, and the line that is printed first, if any. -/
  | lines (banner : Option Text) (lines : List Text)
  /-- There is nothing to execute; the message says why. -/
  | refused (message : Text)

/-- The lines of a source. A path without a file is itself the source. -/
def load (disk : Disk) : Source → Loaded
  | .other => .refused "ERRO FATAL: A fonte do código deve ser uma string."
  | .text t =>
      if !isPath t then
        .lines (some "--- TyrtLang: Executando código em string ---") (Text.splitAll '\n' t)
      else if !hasExtension t then
        .refused <| Text.join
          ["ERRO DE ARQUIVO: O interpretador TyrtLang só executa arquivos com extensão (",
            Text.joinWith ", " (extensions.map Text.quoted), ")."]
      else
        match disk.content t with
        | .error .notFound => .lines none (Text.splitAll '\n' t)
        | .error (.refused reason) => unreadable reason
        | .ok bytes =>
            match Text.Utf8.readByWindow bytes with
            | .error defect => unreadable defect.message
            | .ok content =>
                .lines
                  (some (Text.join ["--- TyrtLang: Carregando arquivo executável '", t, "' ---"]))
                  (Text.linesKept (Text.unifyNewlines content))
where
  /-- A file that cannot be read. -/
  unreadable (reason : Text) : Loaded :=
    .refused (Text.join ["ERRO DE LEITURA: Não foi possível ler o arquivo: ", reason])

/-- Executes lines, the first of which has the number after `count`. -/
def runLines (m : Machine) : (count : Nat) → List Text → Exec Unit
  | _, [] => pure ()
  | count, line :: rest => do
      modify fun s => { s with lineNumber := count + 1 }
      m.line line none
      runLines m (count + 1) rest

def report (cause : Fault) : Exec Unit := do
  if cause.worded ≠ cause then fail cause.worded
  else
    printLine []
    printLine <| Text.join
      [if cause.isFailure then "ERRO DE EXECUÇÃO NÃO TRATADO (Linha "
        else "ERRO INTERNO DO INTERPRETADOR (Linha ",
        Numeral.digits (← get).lineNumber, "): ", cause.kind, ": ", cause.message]

def run (disk : Disk) (m : Machine) (source : Source) : Exec Unit := do
  match load disk source with
  | .refused message => printLine message
  | .lines banner lines => do
      match banner with
      | some banner => printLine banner
      | none => pure ()
      printLine []
      printLine "--- TyrtLang Interpreter V34.0 (Completo) Iniciado ---"
      rescue (runLines m 0 lines) report
      printLine "--- TyrtLang Finalizado ---"
      printLine []

/-- Executes lines one after the other. A fault that is ignored does not stop them. -/
def feed (m : Machine) (ignored : Fault → Bool) : List Text → Exec Unit
  | [] => pure ()
  | line :: rest => do
      rescue (m.line line none) fun cause => if ignored cause then pure () else fail cause
      feed m ignored rest

end Source

/-- Writes a text to a stream that keeps nothing, and answers how many characters it has. -/
def Sink.write (t : Text) : Nat := t.length

end LineScript
