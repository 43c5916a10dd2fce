import ScriptHost.Script.Library

/-!
# Installation and demonstration

Installing announces the names that scripts may use. The demonstration runs some scripts, saves
others, and tells which files lie in the current folder.
-/

namespace ScriptHost.Script

open ScriptHost.Number ScriptHost.Text

/-! ### Installation -/

/-- The constants that are installed. -/
def installedConstants : List String :=
  (constants.map Prod.fst).take 22

/-- The functions that are installed besides the dialogs and those that run scripts. -/
def installedFunctions : List String :=
  ["CreateObject", "GetObject", "Len", "Left", "Right", "Mid", "UCase", "LCase", "Trim", "LTrim",
    "RTrim",
    "InStr", "Replace", "Split", "Join", "Asc", "Chr", "Space", "String", "StrReverse", "Abs",
      "Sqr",
    "Sgn", "Int", "Fix", "Round", "Rnd", "Randomize", "CStr", "CInt", "CLng", "CSng", "CDbl",
      "CBool",
    "CDate", "Now", "Date", "Time", "Year", "Month", "Day", "Hour", "Minute", "Second", "Timer",
      "DateAdd",
    "DateDiff", "Array", "UBound", "LBound", "Filter", "IsNumeric", "IsDate", "IsEmpty", "IsNull",
    "IsArray", "IsObject", "TypeName", "VarType", "Hex", "Oct", "Val", "Str"]

/-- The names that are installed. -/
def installedNames (d : Dialect) : List String :=
  installedConstants ++ [d.messageBox, d.inputBox] ++ installedFunctions ++
    ["WScript", d.runScript, "EvalVBS", "CreateVBSFile"]

/-- Names in the order of their characters. -/
def sortNames (names : List String) : List String :=
  names.mergeSort fun a b => textOrder a.toList b.toList != .gt

/-- Announces the installation and gives the installed names in order. -/
def install : Act (List String) := do
  let d := (← get).dialect
  Act.print "✅ VBScript库已安装到全局命名空间"
  Act.print ("📚 现在可以直接使用: " ++ d.messageBox ++ ", " ++ d.inputBox ++ ", CreateObject 等函数")
  Act.print ("📚 示例: " ++ d.messageBox ++ "('Hello World!', vbInformation, '测试')")
  return sortNames (installedNames d)

/-! ### Demonstration -/

/-- A text with the names of a dialect in the place of those with capitals. -/
def respell (d : Dialect) (s : String) : String :=
  let put := fun (old new : String) (cs : List Char) => replaceAll old.toList new.toList cs
  String.ofList
    (put Dialect.capital.messageBox d.messageBox
      (put Dialect.capital.inputBox d.inputBox
        (put Dialect.capital.runScript d.runScript s.toList)))

/-- Rows with line breaks between them, in a dialect. -/
def rowsText (d : Dialect) (rows : List String) : String :=
  respell d (String.ofList (join ['\n'] (rows.map String.toList)))

/-- A script that asks for a name and an age. -/
def greetingScript : List String :=
  ["",
    "    ' 基本功能测试",
    "    MsgBox \"VBScript模拟器测试\", vbInformation + vbOKOnly, \"测试\"",
    "    name = InputBox(\"请输入您的姓名:\", \"用户信息\", \"张三\")",
    "    age = InputBox(\"请输入您的年龄:\", \"用户信息\", \"25\")",
    "    ",
    "    If IsNumeric(age) Then",
    "        MsgBox \"您好 \" & name & \"!\" & vbCrLf & _",
    "               \"您的年龄是: \" & age & \"岁\", _",
    "               vbInformation, \"欢迎\"",
    "    Else",
    "        MsgBox \"年龄必须是数字!\", vbCritical, \"错误\"",
    "    End If",
    "    ",
    "    WScript.Echo \"测试完成!\"",
    "    "]

/-- A script that writes a file and reads it. -/
def fileScript : List String :=
  ["",
    "    ' 文件操作测试",
    "    Set fso = CreateObject(\"Scripting.FileSystemObject\")",
    "    ",
    "    ' 创建ANSI编码的文件",
    "    fileName = \"test_ansi.txt\"",
    "    content = \"这是ANSI编码的测试文件\" & vbCrLf & _",
    "              \"创建时间: \" & Now() & vbCrLf & _",
    "              \"测试中文: 你好，世界！\"",
    "    ",
    "    On Error Resume Next",
    "    Set file = fso.CreateTextFile(fileName, True, False)  ' False = ANSI编码",
    "    ",
    "    If Err.Number = 0 Then",
    "        file.Write content",
    "        file.Close",
    "        MsgBox \"ANSI文件创建成功!\" & vbCrLf & _",
    "               \"文件名: \" & fileName, _",
    "               vbInformation, \"成功\"",
    "        ",
    "        ' 读取文件验证",
    "        Set readFile = fso.OpenTextFile(fileName, 1)  ' 1 = 读取",
    "        fileContent = readFile.ReadAll()",
    "        readFile.Close",
    "        ",
    "        MsgBox \"文件内容:\" & vbCrLf & vbCrLf & fileContent, _",
    "               vbInformation, \"文件内容\"",
    "    Else",
    "        MsgBox \"创建文件失败: \" & Err.Description, vbCritical, \"错误\"",
    "    End If",
    "    "]

/-- A script that is saved. -/
def savedScript : List String :=
  ["",
    "    ' 这是一个ANSI编码的VBScript文件",
    "    ' 可以直接在Windows上双击运行",
    "    ",
    "    Option Explicit",
    "    ",
    "    Dim name, age, message",
    "    ",
    "    name = InputBox(\"请输入姓名:\", \"用户信息\", \"张三\")",
    "    age = InputBox(\"请输入年龄:\", \"用户信息\", \"25\")",
    "    ",
    "    If name <> \"\" And IsNumeric(age) Then",
    "        message = \"用户信息汇总:\" & vbCrLf & _",
    "                 \"====================\" & vbCrLf & _",
    "                 \"姓名: \" & name & vbCrLf & _",
    "                 \"年龄: \" & age & \"岁\" & vbCrLf & _",
    "                 \"出生年份: \" & (Year(Now()) - CInt(age)) & vbCrLf & _",
    "                 \"====================\"",
    "        ",
    "        MsgBox message, vbInformation, \"信息汇总\"",
    "        ",
    "        ' 保存到文件",
    "        Dim fso, file",
    "        Set fso = CreateObject(\"Scripting.FileSystemObject\")",
    "        Set file = fso.CreateTextFile(\"user_info_saved.txt\", True, False)",
    "        file.Write message",
    "        file.Close",
    "        ",
    "        MsgBox \"信息已保存到文件!\", vbExclamation",
    "    Else",
    "        MsgBox \"输入无效!\", vbCritical",
    "    End If",
    "    ",
    "    WScript.Echo \"脚本执行完成!\"",
    "    "]

/-- A script that asks whether to go on. -/
def questionScript : List String :=
  ["",
    "    MsgBox \"这是通过RunVBS执行的脚本\", vbInformation, \"RunVBS测试\"",
    "    Dim result",
    "    result = MsgBox(\"是否继续测试?\", vbYesNo + vbQuestion, \"确认\")",
    "    ",
    "    If result = vbYes Then",
    "        MsgBox \"您选择了继续\", vbInformation",
    "    Else",
    "        MsgBox \"您选择了取消\", vbExclamation",
    "    End If",
    "    "]

/-- A line across the page. -/
def ruler : String := String.ofList (List.replicate 70 '=')

/-- Where the demonstration saves the last script. -/
def questionFile : Dialect → String
  | .capital => "runvbs_test.vbs"
  | .small => "Runvbs_test.vbs"

/-- What is printed at the end. -/
def closingLines : List String :=
  ["✅ 所有测试完成!",
    "\n💡 使用提示:",
    "  1. 导入模块: from vbs import *",
    "  2. 安装到全局: install()",
    "  3. 运行脚本: RunVBS('代码') 或 RunVBS('文件.vbs')",
    "  4. 创建VBS文件: CreateVBSFile('文件名', '内容', 'ANSI')",
    "\n🎯 特性总结:",
    "  ✓ 完整的VBScript函数支持",
    "  ✓ ANSI编码文件保存",
    "  ✓ 文件系统操作",
    "  ✓ COM对象模拟",
    "  ✓ 对话框支持",
    "  ✓ 中文兼容"]

/-- Whether a file belongs to those that are listed at the end. -/
def isListed (name : String) : Bool :=
  endsWith ".vbs".toList name.toList || endsWith ".txt".toList name.toList

/-- The size that a folder is said to have. -/
def folderSize : Nat := 4096

/-- The size of a file or folder. -/
def nodeSize : Node → Nat
  | .file content _ => content.length
  | _ => folderSize

/-- Tells which scripts and texts lie in the current folder. -/
def listFiles : Act Unit := do
  let entries ← Storage.listFolder "."
  let sorted := entries.mergeSort fun a b => textOrder a.1.toList b.1.toList != .gt
  (sorted.filter fun e => isListed e.1).forM fun e =>
    Act.print ("  📄 " ++ e.1 ++ " (" ++ String.ofList (natDigits (nodeSize e.2)) ++ " 字节)")

/-- Saves a script and reads it back. -/
def demonstrateSaving (d : Dialect) : Act Unit := do
  let name := "generated_script.vbs"
  if (← save (.text name) (.text (rowsText d savedScript))).truthy then
    Act.print ("✅ 已生成: " ++ name ++ " (ANSI编码)")
    Act.recoverAll (do
      let text ← AnsiFile.readText (.text name)
      if occurs "ANSI编码".toList (text.take 200) then Act.print "✅ ANSI编码验证成功") fun _ =>
      Act.print "⚠️  编码验证失败"

/-- Shows what scripts can do. -/
def demonstrate : Act Unit := do
  let d := (← get).dialect
  let lib := library d
  Act.print ruler
  Act.print "VBScript Complete Emulator for Python - 修复完整版"
  Act.print ruler
  Act.print "\n🧪 测试1: 基本功能测试"
  let (_, session) ← inSession freshSession (run lib (rowsText d greetingScript).toList)
  Act.print "\n🧪 测试2: 文件操作测试"
  discard (inSession session (run lib (rowsText d fileScript).toList))
  Act.print "\n🧪 测试3: 保存ANSI VBS文件"
  demonstrateSaving d
  Act.print ("\n🧪 测试4: 使用" ++ d.runScript ++ "函数")
  discard (runScript lib (.text (rowsText d questionScript)) (.text (questionFile d)))
  Act.print "\n📁 生成的文件列表:"
  listFiles
  Act.print ("\n" ++ ruler)
  closingLines.forM fun l => Act.print (respell d l)
  Act.print ruler

end ScriptHost.Script
