import ScriptHost.Text.Charset
import ScriptHost.Text.Quoted
import ScriptHost.Text.Search

/-!
# Causes of failure

Whatever can go wrong while a script runs is a `Fault`. `Fault.message` is its wording, which
scripts can print, and `Fault.kind` sorts faults into the families that handlers tell apart.
-/

namespace ScriptHost

open ScriptHost.Text

/-- Failures reported by the file system. -/
inductive OsError where
  | noEntry
  | taken
  | notDirectory
  | isDirectory
  | invalid
  | tooLong
  | notEmpty
  | denied
  | busy
  | badDescriptor
  deriving DecidableEq, Repr

namespace OsError

/-- The number of a file-system failure. -/
def number : OsError → Nat
  | noEntry => 2
  | badDescriptor => 9
  | denied => 13
  | busy => 16
  | taken => 17
  | notDirectory => 20
  | isDirectory => 21
  | invalid => 22
  | tooLong => 36
  | notEmpty => 39

/-- The wording of a file-system failure. -/
def text : OsError → String
  | noEntry => "No such file or directory"
  | badDescriptor => "Bad file descriptor"
  | denied => "Permission denied"
  | busy => "Device or resource busy"
  | taken => "File exists"
  | notDirectory => "Not a directory"
  | isDirectory => "Is a directory"
  | invalid => "Invalid argument"
  | tooLong => "File name too long"
  | notEmpty => "Directory not empty"

end OsError

/-- The families of faults. -/
inductive FaultKind where
  | plain
  | type
  | value
  | overflow
  | attribute
  | index
  | key
  | zeroDivision
  | endOfInput
  | unsupported
  | encode
  | decode
  | json
  | os (e : OsError)
  | sameFile
  | copying
  | runtime
  | recursion
  | memory
  | exit
  /-- A family that a measured program names itself. -/
  | named (name : String)
  deriving DecidableEq

/-- The name of a family, as reports give it. -/
def FaultKind.name : FaultKind → String
  | .plain => "Exception"
  | .type => "TypeError"
  | .value => "ValueError"
  | .overflow => "OverflowError"
  | .attribute => "AttributeError"
  | .index => "IndexError"
  | .key => "KeyError"
  | .zeroDivision => "ZeroDivisionError"
  | .endOfInput => "EOFError"
  | .unsupported => "UnsupportedOperation"
  | .encode => "UnicodeEncodeError"
  | .decode => "UnicodeDecodeError"
  | .json => "JSONDecodeError"
  | .os .noEntry => "FileNotFoundError"
  | .os .taken => "FileExistsError"
  | .os .notDirectory => "NotADirectoryError"
  | .os .isDirectory => "IsADirectoryError"
  | .os .denied => "PermissionError"
  | .os _ => "OSError"
  | .sameFile => "SameFileError"
  | .copying => "Error"
  | .runtime => "RuntimeError"
  | .recursion => "RecursionError"
  | .memory => "MemoryError"
  | .exit => "SystemExit"
  | .named name => name

/-- What went wrong with one entry of a folder that was being copied. -/
inductive CopyTrouble where
  /-- Source, destination and wording. -/
  | entry (source destination reason : String)
  /-- One letter of a wording that stands for no entry. -/
  | letter (c : Char)

/-- Why an operation failed. -/
inductive Fault where
  -- calls
  | missingArguments (fn : String) (names : List String)
  | tooManyArguments (fn : String) (least most given : Nat)
  | unexpectedKeyword (fn name : String)
  | repeatedArgument (fn name : String)
  | notCallable (type : String)
  | notInstantiable (text : String)
  -- operands
  | unordered (op left right : String)
  | unsupportedOperands (op left right : String)
  | incomparable (left right : String)
  | badConcat (left right : String)
  | badRepeat (type : String)
  | badUnary (op type : String)
  -- numbers
  | notReal (type : String)
  | notWhole (type : String)
  | notIndex (type : String)
  | badSlice
  | badFloatText (text : String)
  | badWholeText (text : String)
  | numeralTooLong (digits : Option Nat)
  | notANumberToInt
  | infinityToInt
  | tooLargeForFloat
  | quotientTooLarge
  | roundedTooLarge
  | tooLargeForC (type : String)
  | countTooLarge
  | beyondCInt (above : Bool)
  | divisionByZero (text : String)
  | mathDomain
  | negativeRoot
  | charRange
  | byteRange
  | negativeCount
  | notBytes (type : String)
  | textToBytes
  | zeroStep
  | negativeShift
  -- texts and sequences
  | emptySeparator
  | indexRange (what : String)
  | emptyChoice (fn : String)
  | notIterable (type : String)
  | notContainer (type : String)
  | noLength (type : String)
  | formatting
  -- dates
  | hourRange
  | minuteRange
  | secondRange
  | yearRange (year : Int)
  | dayRange
  | dateRange
  | spanTooLong (days : Int)
  -- objects
  | noAttribute (type name : String)
  | noSetter (property type : String)
  | noDeleter (property type : String)
  | noItemAssignment (type : String)
  | notSubscriptable (type : String)
  | badIndexType (type given : String)
  | unhashable (type : String)
  -- streams and files
  | streamClosed
  | alreadyExists
  | creationFailed (text : String)
  | notReadable
  | notWritable
  | readCount (type : String)
  | memoryText (type : String)
  | fileText (type : String)
  | encoding (e : EncodeFault)
  | decoding (e : DecodeFault)
  | os (e : OsError) (path : String)
  | nullByte
  | badDescriptor
  | negativeDescriptor
  | pathType (type : String)
  | statType (fn type : String)
  | newNameType (type : String)
  | missingFolder (path : String)
  | betweenPaths (e : OsError) (source destination : String)
  | sameFile (a b : String)
  | moveIntoItself (source destination : String)
  | destinationTaken (path : String)
  | linkedFolder
  | copying (troubles : List CopyTrouble)
  -- surroundings
  | endOfInput
  | noDisplay
  | noRegistry
  | noSuchKey
  | noSuchValue
  | tooDeep
  | outOfMemory
  /-- A text is no formula. -/
  | noFormula
  | notFound (name : String)
  | exit (code : String)
  -- measuring
  | badJson (reason : String) (line column position : Nat)
  | missingField (name : String)
  | noBenchmark (name : String)
  /-- What a measured program reports, by family and text. -/
  | raised (family text : String)

namespace Fault

/-- Names in quotes, separated by commas, the last one after "and". -/
def nameList : List String → String
  | [] => ""
  | [a] => quote a
  | [a, b] => quote a ++ " and " ++ quote b
  | a :: rest => go (quote a) rest
where
  go (acc : String) : List String → String
    | [] => acc
    | [z] => acc ++ ", and " ++ quote z
    | b :: rest => go (acc ++ ", " ++ quote b) rest

/-- An escape for a character that an encoding lacks. -/
def escaped (c : Char) : String :=
  String.ofList (if c.toNat < 128 then [c] else escapeCode c)

/-- A byte as two hexadecimal digits. -/
def byteText (b : UInt8) : String :=
  "0x" ++ String.ofList (hexDigits 2 b.toNat)

/-- The wording of an encoding fault. -/
def encodeText (e : EncodeFault) : String :=
  quote e.charset.name ++ " codec can't encode character '" ++ escaped e.char ++ "' in position " ++
    toString e.position ++ ": illegal multibyte sequence"

/-- The wording of a decoding fault. -/
def decodeText (e : DecodeFault) : String :=
  let span :=
    match e.bytes with
    | [b] => "byte " ++ byteText b ++ " in position " ++ toString e.position
    | bs =>
      "bytes in position " ++ toString e.position ++ "-" ++ toString (e.position + bs.length - 1)
  quote e.charset.name ++ " codec can't decode " ++ span ++ ": " ++ e.reason

/-- The wording of what went wrong with one entry. -/
def troubleText : CopyTrouble → String
  | .entry source destination reason =>
    "(" ++ quote source ++ ", " ++ quote destination ++ ", " ++ quote reason ++ ")"
  | .letter c => quote (String.ofList [c])

/-- The wording of what went wrong with some entries. -/
def troublesText (ts : List CopyTrouble) : String :=
  "[" ++ String.ofList (join [',', ' '] (ts.map fun t => (troubleText t).toList)) ++ "]"

/-- The number of arguments that a function takes. -/
def arityText (least most : Nat) : String :=
  if least == most then
    toString most ++ " positional argument" ++ (if most == 1 then "" else "s")
  else "from " ++ toString least ++ " to " ++ toString most ++ " positional arguments"

/-- The wording of a fault. -/
def message : Fault → String
  | missingArguments fn names =>
    fn ++ "() missing " ++ toString names.length ++ " required positional argument" ++
      (if names.length == 1 then "" else "s") ++ ": " ++ nameList names
  | tooManyArguments fn least most given =>
    fn ++ "() takes " ++ arityText least most ++ " but " ++ toString given ++
      (if given == 1 then " was given" else " were given")
  | unexpectedKeyword fn name => fn ++ "() got an unexpected keyword argument " ++ quote name
  | repeatedArgument fn name => fn ++ "() got multiple values for argument " ++ quote name
  | notCallable type => quote type ++ " object is not callable"
  | notInstantiable text => text
  | unordered op left right =>
    quote op ++ " not supported between instances of " ++ quote left ++ " and " ++ quote right
  | unsupportedOperands op left right =>
    "unsupported operand type(s) for " ++ op ++ ": " ++ quote left ++ " and " ++ quote right
  | incomparable left right => "can't compare " ++ left ++ " to " ++ right
  | badConcat left right =>
    "can only concatenate " ++ left ++ " (not \"" ++ right ++ "\") to " ++ left
  | badRepeat type => "can't multiply sequence by non-int of type " ++ quote type
  | badUnary op type => "bad operand type for " ++ op ++ ": " ++ quote type
  | notReal type => "float() argument must be a string or a real number, not " ++ quote type
  | notWhole type =>
    "int() argument must be a string, a bytes-like object or a real number, not " ++ quote type
  | notIndex type => quote type ++ " object cannot be interpreted as an integer"
  | badSlice => "slice indices must be integers or None or have an __index__ method"
  | badFloatText text => "could not convert string to float: " ++ quote text
  | badWholeText text =>
    "invalid literal for int() with base 10: " ++ String.ofList ((quoted text.toList).take 200)
  | numeralTooLong none =>
    "Exceeds the limit (4300 digits) for integer string conversion; " ++
      "use sys.set_int_max_str_digits() to increase the limit"
  | numeralTooLong (some n) =>
    "Exceeds the limit (4300 digits) for integer string conversion: value has " ++ toString n ++
      " digits; use sys.set_int_max_str_digits() to increase the limit"
  | notANumberToInt => "cannot convert float NaN to integer"
  | infinityToInt => "cannot convert float infinity to integer"
  | tooLargeForFloat => "int too large to convert to float"
  | quotientTooLarge => "integer division result too large for a float"
  | roundedTooLarge => "rounded value too large to represent"
  | countTooLarge => "cannot fit 'int' into an index-sized integer"
  | tooLargeForC type => "Python int too large to convert to C " ++ type
  | beyondCInt above =>
    if above then "signed integer is greater than maximum"
    else "signed integer is less than minimum"
  | divisionByZero text => text
  | mathDomain => "math domain error"
  | negativeRoot => "负数不能开平方根"
  | charRange => "chr() arg not in range(0x110000)"
  | byteRange => "bytes must be in range(0, 256)"
  | negativeCount => "negative count"
  | notBytes type => "cannot convert " ++ quote type ++ " object to bytes"
  | textToBytes => "string argument without an encoding"
  | zeroStep => "range() arg 3 must not be zero"
  | negativeShift => "negative shift count"
  | emptySeparator => "empty separator"
  | indexRange what => what ++ " index out of range"
  | emptyChoice fn => fn ++ "() arg is an empty sequence"
  | notIterable type => quote type ++ " object is not iterable"
  | notContainer type => "argument of type " ++ quote type ++ " is not iterable"
  | noLength type => "object of type " ++ quote type ++ " has no len()"
  | formatting => "not all arguments converted during string formatting"
  | hourRange => "hour must be in 0..23"
  | minuteRange => "minute must be in 0..59"
  | secondRange => "second must be in 0..59"
  | yearRange year => "year " ++ toString year ++ " is out of range"
  | dayRange => "day is out of range for month"
  | dateRange => "date value out of range"
  | spanTooLong days => "days=" ++ toString days ++ "; must have magnitude <= 999999999"
  | noAttribute type name => quote type ++ " object has no attribute " ++ quote name
  | noSetter property type =>
    "property " ++ quote property ++ " of " ++ quote type ++ " object has no setter"
  | noDeleter property type =>
    "property " ++ quote property ++ " of " ++ quote type ++ " object has no deleter"
  | noItemAssignment type => quote type ++ " object does not support item assignment"
  | notSubscriptable type => quote type ++ " object is not subscriptable"
  | badIndexType type given => type ++ " indices must be integers or slices, not " ++ given
  | unhashable type => "unhashable type: " ++ quote type
  | streamClosed => "文件已关闭"
  | alreadyExists => "文件已存在"
  | creationFailed text => "创建文件失败: " ++ text
  | notReadable => "not readable"
  | notWritable => "not writable"
  | readCount type => "argument should be integer or None, not " ++ quote type
  | memoryText type => "string argument expected, got " ++ quote type
  | fileText type => "write() argument must be str, not " ++ type
  | encoding e => encodeText e
  | decoding e => decodeText e
  | os e path => "[Errno " ++ toString e.number ++ "] " ++ e.text ++ ": " ++ quote path
  | nullByte => "embedded null byte"
  | badDescriptor => "[Errno 9] Bad file descriptor"
  | negativeDescriptor => "negative file descriptor"
  | pathType type => "expected str, bytes or os.PathLike object, not " ++ type
  | statType fn type => fn ++ ": path should be string, bytes, os.PathLike or integer, not " ++ type
  | betweenPaths e source destination =>
    "[Errno " ++ toString e.number ++ "] " ++ e.text ++ ": " ++ quote source ++ " -> " ++
      quote destination
  | newNameType type => "rename: dst should be string, bytes or os.PathLike, not " ++ type
  | missingFolder path => "Directory does not exist: " ++ path
  | sameFile a b => a ++ " and " ++ b ++ " are the same file"
  | moveIntoItself source destination =>
    "Cannot move a directory '" ++ source ++ "' into itself '" ++ destination ++ "'."
  | destinationTaken path => "Destination path '" ++ path ++ "' already exists"
  | linkedFolder => "Cannot call rmtree on a symbolic link"
  | copying troubles => troublesText troubles
  | endOfInput => "EOF when reading a line"
  | noDisplay => "no display"
  | noRegistry => "No module named 'winreg'"
  | noSuchKey => "no such key"
  | noSuchValue => "no such value"
  | tooDeep => "maximum recursion depth exceeded"
  | outOfMemory => ""
  | noFormula => "invalid syntax"
  | notFound name => name
  | exit code => code
  | badJson reason line column position =>
    reason ++ ": line " ++ toString line ++ " column " ++ toString column ++ " (char " ++
      toString position ++ ")"
  | missingField name => quote name
  | noBenchmark name => "module 'microbench' has no attribute " ++ quote name
  | raised family text => if family == "KeyError" then quote text else text

/-- The family of a fault. -/
def kind : Fault → FaultKind
  | missingArguments .. | tooManyArguments .. | unexpectedKeyword .. | repeatedArgument ..
  | notCallable _ | notInstantiable _ | unordered .. | unsupportedOperands .. | incomparable ..
  | badConcat .. | badRepeat _ | badUnary .. | notReal _ | notWhole _ | notIndex _ | badSlice
  | notBytes _ | textToBytes | notIterable _ | notContainer _ | noLength
    _ | formatting | noItemAssignment _
  | notSubscriptable _ | badIndexType .. | unhashable _ | readCount _ | memoryText _ | fileText _
  | pathType _ | statType .. | newNameType _ => .type
  | badFloatText _ | badWholeText _ | numeralTooLong _ | notANumberToInt | mathDomain | negativeRoot
  | charRange | byteRange | negativeCount | zeroStep | negativeShift | emptySeparator | emptyChoice
    _
  | hourRange | minuteRange | secondRange | yearRange _ | dayRange | nullByte
  | negativeDescriptor => .value
  | infinityToInt | tooLargeForFloat | quotientTooLarge | roundedTooLarge | tooLargeForC
    _ | beyondCInt _
  | countTooLarge | dateRange | spanTooLong _ => .overflow
  | divisionByZero _ => .zeroDivision
  | indexRange _ => .index
  | noAttribute .. | noSetter .. | noDeleter .. => .attribute
  | streamClosed | alreadyExists | creationFailed _ => .plain
  | notReadable | notWritable => .unsupported
  | encoding _ => .encode
  | decoding _ => .decode
  | os e _ | betweenPaths e .. => .os e
  | missingFolder _ => .os .noEntry
  | badDescriptor => .os .badDescriptor
  | sameFile .. => .sameFile
  | moveIntoItself .. | destinationTaken _ | copying _ => .copying
  | linkedFolder => .os .invalid
  | endOfInput => .endOfInput
  | noDisplay => .runtime
  | noRegistry => .named "ImportError"
  | noSuchKey | noSuchValue => .named "OSError"
  | tooDeep => .recursion
  | outOfMemory => .memory
  | noFormula => .named "SyntaxError"
  | notFound _ | missingField _ => .key
  | exit _ => .exit
  | badJson .. => .json
  | noBenchmark _ => .attribute
  | raised family _ => .named family

/-- Whether a handler of errors lets the fault pass: leaving the script is no error. -/
def isExit : Fault → Bool
  | exit _ => true
  | raised family _ =>
    family == "SystemExit" || family == "KeyboardInterrupt" || family == "GeneratorExit"
  | _ => false

/-- A fault with its family, as reports show it. -/
def title (e : Fault) : String :=
  e.kind.name ++ ": " ++ e.message

end Fault

end ScriptHost
