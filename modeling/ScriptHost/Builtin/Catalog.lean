import ScriptHost.Builtin.DateFunction
import ScriptHost.Builtin.ListFunction
import ScriptHost.Builtin.NumberFunction
import ScriptHost.Builtin.RandomFunction
import ScriptHost.Object.HostObject

/-!
# The catalog of functions

Every function and class that can be called by name, with its parameters and default values. Those
that run scripts are added elsewhere.
-/

namespace ScriptHost.Catalog

open ScriptHost.DateFunction (toWhen When)
open Routine (on0 on1 on2 on3 on4 pure1 pure2 pure3 pure4)

/-- A name and the routine that it calls. -/
abbrev Entry := String × Routine

/-- A function under its own name. -/
def function (name : String) (params : List Param) (run : List Value → Act Value) : Entry :=
  (name, .function name params run)

/-- A class under its own name. -/
def class_ (kind : ObjectKind) (params : List Param) (run : List Value → Act Value) : Entry :=
  (kind.name, .constructor kind params run)

/-- Computes on one value and the present moment. -/
def timed1 (f : Calendar.Moment → Value → Except Fault Value) : List Value → Act Value :=
  on1 fun v => do Act.ofExcept (f (← get).clock v)

/-- A total function on one value. -/
def total1 (f : Value → Value) : List Value → Act Value :=
  pure1 fun v => .ok (f v)

/-- A test of one value. -/
def test1 (f : Value → Bool) : List Value → Act Value :=
  total1 fun v => .bool (f v)

/-- Six values, of which the fourth does not matter. -/
def replaceValues : List Value → Act Value
  | [text, old, new, _, count, compare] =>
    Act.ofExcept (TextFunction.replaceOf text old new count compare)
  | _ => pure .null

/-- Functions on texts. -/
def texts : List Entry :=
  [function "Len" [need "string"] (pure1 TextFunction.lenOf),
    function "Left" [need "string", need "length"] (pure2 TextFunction.leftOf),
    function "Right" [need "string", need "length"] (pure2 TextFunction.rightOf),
    function "Mid" [need "string", need "start", given "length" .null] (pure3 TextFunction.midOf),
    function "UCase" [need "string"] (pure1 (TextFunction.mapText Text.upper)),
    function "LCase" [need "string"] (pure1 (TextFunction.mapText Text.lower)),
    function "Trim" [need "string"] (pure1 (TextFunction.mapText Text.strip)),
    function "LTrim" [need "string"] (pure1 (TextFunction.mapText Text.stripLeft)),
    function "RTrim" [need "string"] (pure1 (TextFunction.mapText Text.stripRight)),
    function "InStr"
      [given "start" .null, given "string1" (.text ""), given "string2" (.text ""),
        given "compare" (.int 0)]
      (pure4 TextFunction.positionOf),
    function "Replace"
      [need "expression", need "find", need "replacewith", given "start" (.int 1),
        given "count" (.int (-1)),
        given "compare" (.int 0)] replaceValues,
    function "Split"
      [need "expression", given "delimiter" (.text " "), given "limit" (.int (-1)),
        given "compare" (.int 0)]
      (pure4 fun v delimiter limit _ => TextFunction.splitOf v delimiter limit),
    function "Join" [need "list_array", given "delimiter" (.text " ")] (pure2 TextFunction.joinOf),
    function "Asc" [need "string"] (pure1 TextFunction.codeOf),
    function "Chr" [need "charcode"] (pure1 TextFunction.charOf),
    function "Space" [need "number"] (pure1 TextFunction.spacesOf),
    function "String" [need "number", need "character"] (pure2 TextFunction.repeatedOf),
    function "StrReverse" [need "string"] (pure1 (TextFunction.mapText TextFunction.reversed))]

/-- Functions on numbers, and random numbers. -/
def numbers : List Entry :=
  [function "Abs" [need "number"] (pure1 NumberFunction.absOf),
    function "Sqr" [need "number"] (pure1 NumberFunction.rootOf),
    function "Sgn" [need "number"] (pure1 NumberFunction.signOf),
    function "Int" [need "number"] (pure1 NumberFunction.floorOf),
    function "Fix" [need "number"] (pure1 NumberFunction.fixOf),
    function "Round" [need "number", given "decimals" (.int 0)] (pure2 NumberFunction.roundOf),
    function "Rnd" [given "seed" .null] (on1 RandomFunction.random),
    function "Randomize" [given "number" .null] (on1 RandomFunction.randomize),
    function "Hex" [need "number"] (total1 (NumberFunction.baseText NumberFunction.hexText)),
    function "Oct" [need "number"] (total1 (NumberFunction.baseText NumberFunction.octText)),
    function "Val" [need "string"] (total1 fun v => .float (NumberFunction.leadingNumber v)),
    function "Str" [need "number"] (total1 NumberFunction.signedText)]

/-- Conversions. -/
def conversions : List Entry :=
  [function "CStr" [need "expression"] (pure1 fun v => v.display.map .text),
    function "CInt" [need "expression"] (total1 fun v => .int (NumberFunction.nearestOrZero v)),
    function "CLng" [need "expression"] (total1 fun v => .int (NumberFunction.nearestOrZero v)),
    function "CSng" [need "expression"] (total1 fun v => .float (NumberFunction.floatOrZero v)),
    function "CDbl" [need "expression"] (total1 fun v => .float (NumberFunction.floatOrZero v)),
    function "CBool" [need "expression"] (test1 NumberFunction.toBool),
    function "CDate" [need "expression"] (timed1 fun now v => (toWhen now v).map When.value)]

/-- Functions on dates. -/
def dates : List Entry :=
  [function "Now" [] (on0 do return .moment (← get).clock),
    function "Date" [] (on0 do return .date (← get).clock.date),
    function "Time" [] (on0 do return .time (← get).clock.time),
    function "Year" [need "date_value"] (timed1 (DateFunction.partOf fun w => w.day.year)),
    function "Month" [need "date_value"] (timed1 (DateFunction.partOf fun w => w.day.month)),
    function "Day" [need "date_value"] (timed1 (DateFunction.partOf fun w => w.day.day)),
    function "Hour" [need "time_value"] (timed1 (DateFunction.partOf fun w => w.time.hour)),
    function "Minute" [need "time_value"] (timed1 (DateFunction.partOf fun w => w.time.minute)),
    function "Second" [need "time_value"] (timed1 (DateFunction.partOf fun w => w.time.second)),
    function "Timer" [] (on0 do return DateFunction.timer (← get).clock),
    function "DateAdd" [need "interval", need "number", need "date_value"]
      (on3 fun interval number date => do
      Act.ofExcept (DateFunction.addOf (← get).clock interval number date)),
    function "DateDiff"
      [need "interval", need "date1", need "date2", given "firstdayofweek" (.int 1),
        given "firstweekofyear" (.int 1)]
      fun vs => do
        match vs with
        | interval :: a :: b :: _ =>
          Act.ofExcept (DateFunction.differenceOf (← get).clock interval a b)
        | _ => return .null]

/-- Functions on lists, and tests. -/
def lists : List Entry :=
  [("Array", .variadic "Array" fun vs => pure (.list vs)),
    function "UBound" [need "array_var", given "dimension" (.int 1)]
      (pure2 fun v d => .ok (.int (ListFunction.upperBound v d))),
    function "LBound" [need "array_var", given "dimension" (.int 1)] (pure2 fun _ _ =>
      .ok (.int 0)),
    function "Filter" [need "input_array", need "value", given "include" (.bool true),
      given "compare" (.int 0)]
      (pure4 ListFunction.filterOf),
    function "IsNumeric" [need "expression"] (test1 NumberFunction.isNumeric),
    function "IsDate" [need "expression"] (timed1 fun now v =>
      .ok (.bool (DateFunction.isDate now v))),
    function "IsEmpty" [need "expression"] (test1 ListFunction.isEmpty),
    function "IsNull" [need "expression"] (test1 ListFunction.isNull),
    function "IsArray" [need "expression"] (test1 ListFunction.isArray),
    function "IsObject" [need "expression"] (test1 fun _ => true),
    function "TypeName" [need "expression"] (total1 fun v => .text (ListFunction.typeName v)),
    function "VarType" [need "expression"] (total1 fun v => .int (ListFunction.typeNumber v))]

/-- The function that creates objects by name. -/
def createObject : Entry :=
  function "CreateObject" [need "progid", given "server_name" (.text "")] (on2 fun name _ =>
    Creation.byName name)

/-- The classes of objects, and the functions that create objects by name. -/
def objects : List Entry :=
  [createObject,
    function "GetObject" [given "pathname" (.text ""), given "class_name" (.text "")]
      (on2 Creation.byPath),
    class_ .shell [] (on0 Shell.create),
    class_ .fileSystem [] (on0 (Act.create .fileSystem)),
    class_ .file [need "path"] (on1 fun v => Act.create (.file v)),
    class_ .folder [need "path"] (on1 fun v => Act.create (.folder v)),
    class_ .stream [need "file_obj", given "encoding" (.text "gbk")] (on2 fun v encoding =>
      Stream.create (.noFile v) encoding),
    class_ .dictionary [] (on0 (Act.create (.dictionary {}))),
    class_ .automation [need "progid"] (on1 fun _ => Automation.createNamed),
    class_ .host [] (on0 (Act.create (.host {})))]

/-- A name that is known but stands for nothing that could be called. -/
def uncallable (name message : String) : Entry :=
  (name, ⟨⟨name, [], false, true⟩, fun _ => throw (.notInstantiable message)⟩)

/-- Names of kinds of values, which cannot be called. -/
def kinds : List Entry :=
  [uncallable "Any" "Any cannot be instantiated",
    uncallable "Dict" "Type Dict cannot be instantiated; use dict() instead",
    uncallable "List" "Type List cannot be instantiated; use list() instead",
    uncallable "Tuple" "Type Tuple cannot be instantiated; use tuple() instead",
    uncallable "Optional" "Cannot instantiate typing.Optional",
    uncallable "Union" "Cannot instantiate typing.Union",
    ("Callable", ⟨⟨"Callable", [], false, true⟩, fun vs =>
      throw (.notInstantiable (if vs.isEmpty then
        "Can't instantiate abstract class Callable with abstract method __call__"
        else "Callable() takes no arguments"))⟩)]

/-- A message box under the name that a dialect has for it. -/
def messageBox (d : Dialect) : Entry :=
  function d.messageBox
    [need "prompt", given "buttons" (.int 0), given "title" (.text ""), given "helpfile" (.text ""),
      given "context" (.int 0)]
    fun vs =>
      match vs with
      | prompt :: buttons :: title :: _ => Dialog.messageBox prompt buttons title
      | _ => pure .null

/-- An input box under the name that a dialect has for it. -/
def inputBox (d : Dialect) : Entry :=
  function d.inputBox
    [need "prompt", given "title" (.text ""), given "default" (.text ""), given "xpos" (.int (-1)),
      given "ypos" (.int (-1)), given "helpfile" (.text ""), given "context" (.int 0)]
    fun vs =>
      match vs with
      | prompt :: title :: initial :: _ => Dialog.inputBox prompt title initial
      | _ => pure .null

/-- All functions and classes except the dialogs and those that run scripts. -/
def entries : List Entry :=
  texts ++ numbers ++ conversions ++ dates ++ lists ++ objects ++ kinds

end ScriptHost.Catalog
