import ScriptHost.World.Storage

/-!
# Script files

Scripts are saved in the GBK character set, and characters outside it are left out. Reading such a
file skips bytes that are no characters.
-/

namespace ScriptHost.AnsiFile

open ScriptHost.Text

/-- Writes a text to a path, leaving out what the character set lacks, and creates the folders on
the way. -/
def write (filename content : Value) : Act Unit := do
  let path ← Act.ofExcept (Storage.pathText filename)
  Storage.makeFolderOf path
  let r ← Storage.openForWriting .truncate path
  match content with
  | .text s => Storage.setContent r (Charset.gbk.encodeLossy s.toList)
  | v => throw (.fileText v.argumentName)

/-- Saves a text and answers whether that succeeded; if not, prints why. -/
def save (filename content : Value) : Act Value :=
  Act.recover (do
    write filename content
    return .bool true) fun e => do
    Act.print ("❌ 保存ANSI文件失败 '" ++ (← Act.display filename) ++ "': " ++ e.message)
    return .bool false

/-- The text of a file, with unified line ends. -/
def readText (filename : Value) : Act (List Char) := do
  let (_, content, _) ← Storage.openForReading (← Act.ofExcept (Storage.openText filename))
  return unifyLineEnds (Charset.gbk.decodeLossy content)

/-- Reads a file; if that is not possible, prints why and answers null. -/
def read (filename : Value) : Act Value :=
  Act.recover (do
    return .text (String.ofList (← readText filename))) fun e => do
    Act.print ("❌ 读取ANSI文件失败 '" ++ (← Act.display filename) ++ "': " ++ e.message)
    return .null

/-- Whether bytes start with others. -/
def startsWith (head bytes : List UInt8) : Bool :=
  head.isPrefixOf bytes

/-- Whether plain bytes hold the start of an escape sequence. -/
def hasEscape : List UInt8 → Bool
  | [] => false
  | b :: rest => b == 27 || (b == 126 && rest.head? == some 123) || hasEscape rest

/-- The encoding that bytes seem to be in: by a mark at their start, or plain characters only. -/
def guess (bytes : List UInt8) : String :=
  if bytes.isEmpty then "gbk"
  else if startsWith [0xef, 0xbb, 0xbf] bytes then "UTF-8-SIG"
  else if startsWith [0xff, 0xfe, 0, 0] bytes || startsWith [0, 0, 0xfe, 0xff] bytes then "UTF-32"
  else if startsWith [0xff, 0xfe] bytes || startsWith [0xfe, 0xff] bytes then "UTF-16"
  else if bytes.all (fun b => b.toNat < 128) then (if hasEscape bytes then "gbk" else "ascii")
  else match Charset.utf8.decode bytes with
    | .ok _ => "utf-8"
    | .error _ => "gbk"

/-- The encoding that a file seems to be in; GBK if it cannot be read. -/
def detect (filename : Value) : Act Value :=
  Act.recoverAll (do
    let (_, content, _) ← Storage.openForReading (← Act.ofExcept (Storage.openText filename))
    return .text (guess content)) fun _ => pure (.text "gbk")

end ScriptHost.AnsiFile
