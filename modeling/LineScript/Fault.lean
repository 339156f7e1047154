import LineScript.Numeral
import LineScript.Text.Quoted

/-!
What can go wrong while a script runs. A fault is a cause; its kind and its wording are functions
of the cause. Three families matter to the interpreter: failures of the script, which a block can
catch, signals that end or continue a loop, and all other faults, which a block turns into a
failure of the script when they leave it.
-/

namespace LineScript

/-- The headers that have a form of their own. -/
inductive HeaderKind where
  | handler
  | forLoop
  | whileLoop
  | branch
  | classDef
  | functionDef
  deriving DecidableEq, Repr

/-- The cause of a fault. Type names are those that messages show. -/
inductive Fault where
  /-- A collection that is read or written by index has no value. -/
  | undefinedCollection (name : Text)
  /-- A field of the current object has no value. -/
  | undefinedField (name : Text)
  /-- An expression is no literal and no name that has a value. -/
  | undefinedExpression (text : Text)
  /-- A constant is assigned to. -/
  | constantAssigned (name : Text)
  | methodMissing (method className : Text)
  | methodArity (method : Text) (given expected : Nat)
  | functionArity (name : Text) (expected : Nat)
  | appendArity
  | popArity
  | listMethodUnknown (method : Text)
  | readArguments
  | operatorMissing (symbol className : Text)
  | popOutOfRange (index : Int)
  | fileMissing (path : Text)
  | fileUnreadable (reason : Text)
  /-- A fault of another family has left a block. -/
  | internal (cause : Fault)
  | loopBreak
  | loopContinue
  | unrecognizedLine (line : Text)
  /-- A brace closes a block where none is open. -/
  | strayBrace
  | malformedHeader (header : HeaderKind)
  | cannotAdd (left right : Text)
  | cannotConcatenate (left right : Text)
  | cannotOrder (symbol left right : Text)
  | indexNotInteger (type : Text)
  | unhashable (type : Text)
  | notConvertible (type : Text)
  | indexOutOfRange
  | assignmentOutOfRange
  | indexTooLarge
  | popIndexTooLarge
  /-- A method call has no opening parenthesis after its last point. -/
  | callNotOpened
  | invalidNumeral (text : Text)
  | numeralTooLong (digits : Nat)
  /-- An integer has too many digits to be written. -/
  | integerTooLong
  /-- A key is not in a dictionary. The key is given as shown, if it can be. -/
  | keyMissing (shown : Option Text)
  | memberMissing (type member : Text)
  /-- Two collections that hold each other are compared. -/
  | endlessComparison
  deriving DecidableEq, Repr

namespace Fault

/-- The wording of a header that has not its form. -/
def headerMessage : HeaderKind → Text
  | .handler => "Sintaxe de Except inválida. Use 'Except as nome_var \x7b' ou 'Except \x7b'."
  | .forLoop => "Sintaxe de entr_i inválida."
  | .whileLoop => "Bloco /1 deve terminar com '\x7b'."
  | .branch => "Bloco BILHETE_NADA deve terminar com '\x7b'."
  | .classDef => "Sintaxe de classe inválida."
  | .functionDef => "Sintaxe de função inválida."

def kind : Fault → Text
  | undefinedCollection _ | undefinedField _ | undefinedExpression _ => "VariableNotDefined"
  | constantAssigned _ => "ConstantReassignment"
  | methodMissing .. | methodArity .. | functionArity .. | appendArity | popArity
  | listMethodUnknown _ | readArguments => "InvalidMethodCall"
  | operatorMissing .. => "NotImplementedError"
  | popOutOfRange _ | fileMissing _ | fileUnreadable _ | internal _ => "TyrtRuntimeError"
  | loopBreak => "LoopBreakTyrt"
  | loopContinue => "LoopContinueTyrt"
  | unrecognizedLine _ | strayBrace => "LineNoRecognized"
  | malformedHeader _ => "InvalidSyntax"
  | cannotAdd .. | cannotConcatenate .. | cannotOrder .. | indexNotInteger _ | unhashable _
  | notConvertible _ => "TypeError"
  | indexOutOfRange | assignmentOutOfRange | indexTooLarge => "IndexError"
  | popIndexTooLarge => "OverflowError"
  | callNotOpened | invalidNumeral _ | numeralTooLong _ | integerTooLong => "ValueError"
  | keyMissing _ => "KeyError"
  | memberMissing .. => "AttributeError"
  | endlessComparison => "RecursionError"

/-- The wording of the limit on digits, with the part that says how many there are. -/
def limitMessage (count : Text) : Text :=
  Text.join ["Exceeds the limit (", Numeral.digits Numeral.digitLimit,
    " digits) for integer string conversion", count,
    "; use sys.set_int_max_str_digits() to increase the limit"]

def message : Fault → Text
  | undefinedCollection name => Text.join ["Coleção '", name, "' não definida."]
  | undefinedField name => Text.join ["Variável de instância 'self.", name, "' não definida."]
  | undefinedExpression text => Text.join ["Expressão/Variável inválida: ", text]
  | constantAssigned name => Text.join ["Constante '", name, "' é imutável."]
  | methodMissing method className =>
      Text.join ["Método '", method, "' não encontrado na classe '", className, "'."]
  | methodArity method given expected =>
      Text.join ["Método '", method, "': ", Numeral.digits given, " argumentos dados, mas ",
        Numeral.digits expected, " esperados."]
  | functionArity name expected =>
      Text.join ["Função '", name, "' espera ", Numeral.digits expected, " argumentos."]
  | appendArity => "append() espera 1 argumento."
  | popArity => "pop() espera 0 ou 1 argumento (index)."
  | listMethodUnknown method => Text.join ["Método de lista nativo não reconhecido: ", method]
  | readArguments => "read_file() espera 1 argumento: o caminho do arquivo (string)."
  | operatorMissing symbol className =>
      Text.join ["O operador '", symbol, "' não está implementado na classe '", className, "'."]
  | popOutOfRange index =>
      Text.join ["Índice ", Numeral.write index, " fora dos limites para pop()."]
  | fileMissing path => Text.join ["Arquivo não encontrado: ", path]
  | fileUnreadable reason => Text.join ["Erro ao ler arquivo: ", reason]
  | internal cause => Text.join ["Erro interno: ", cause.kind, ": ", cause.message]
  | loopBreak | loopContinue => []
  | unrecognizedLine line => Text.join ["Linha não reconhecida: ", line]
  | strayBrace => "'\x7d' sem bloco ativo"
  | malformedHeader header => headerMessage header
  | cannotAdd left right =>
      Text.join ["unsupported operand type(s) for +: '", left, "' and '", right, "'"]
  | cannotConcatenate left right =>
      Text.join ["can only concatenate ", left, " (not \"", right, "\") to ", left]
  | cannotOrder symbol left right =>
      Text.join ["'", symbol, "' not supported between instances of '", left, "' and '", right, "'"]
  | indexNotInteger type => Text.join ["list indices must be integers or slices, not ", type]
  | unhashable type => Text.join ["unhashable type: '", type, "'"]
  | notConvertible type =>
      Text.join ["int() argument must be a string, a bytes-like object or a real number, not '",
        type, "'"]
  | indexOutOfRange => "list index out of range"
  | assignmentOutOfRange => "list assignment index out of range"
  | indexTooLarge => "cannot fit 'int' into an index-sized integer"
  | popIndexTooLarge => "Python int too large to convert to C ssize_t"
  | callNotOpened => "not enough values to unpack (expected 2, got 1)"
  | invalidNumeral text =>
      Text.join ["invalid literal for int() with base 10: ", (Text.quoted text).take 200]
  | numeralTooLong digits =>
      limitMessage (Text.join [": value has ", Numeral.digits digits, " digits"])
  | integerTooLong => limitMessage []
  | keyMissing shown => shown.getD (limitMessage [])
  | memberMissing type member =>
      Text.join ["'", type, "' object has no attribute '", member, "'"]
  | endlessComparison => "maximum recursion depth exceeded in comparison"

/-- Whether a fault is a failure of the script, which a block can catch. -/
def isFailure : Fault → Bool
  | undefinedCollection _ | undefinedField _ | undefinedExpression _ | constantAssigned _
  | methodMissing .. | methodArity .. | functionArity .. | appendArity | popArity
  | listMethodUnknown _ | readArguments | operatorMissing .. | popOutOfRange _ | fileMissing _
  | fileUnreadable _ | internal _ => true
  | _ => false

/-- Whether a fault is a signal to the loop around it. -/
def isSignal : Fault → Bool
  | loopBreak | loopContinue => true
  | _ => false

/-- Whether a fault is of the kind with the given name. Two names stand for all failures. -/
def isOf (name : Text) (fault : Fault) : Bool :=
  fault.kind = name ||
    (fault.isFailure && (name = "TyrtError".toList || name = "TyrtRuntimeError".toList))

/-- What is left of a fault whose wording is asked for: a missing key that cannot be shown makes
place for the reason why not. -/
def worded : Fault → Fault
  | keyMissing none => integerTooLong
  | fault => fault

/-- What a fault becomes when it leaves a block: failures and signals stay, a fault of another
family becomes a failure that words it. -/
def leaveBlock (fault : Fault) : Fault :=
  if fault.isFailure || fault.isSignal then fault
  else if fault.worded = fault then internal fault
  else fault.worded

end Fault

end LineScript
