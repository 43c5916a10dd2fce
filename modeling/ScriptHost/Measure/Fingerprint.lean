import ScriptHost.Measure.Datum
import ScriptHost.Measure.Sha256
import ScriptHost.Number.Reading

/-!
# Fingerprints

The fingerprint of a datum is the digest of a sequence of bytes that its parts feed one after the
other. Texts and bytes are marked, lists are preceded by their length, a dictionary feeds its
entries in the order of the fingerprints of their keys and a set the fingerprints of its members in
their order, so that the order of insertion does not matter. Of a long list only both ends are fed,
and nothing is fed of what lies too deep. Fractional numbers are rounded to a few significant digits
first, so that results that differ in the last digits only have one fingerprint.
-/

namespace ScriptHost.Measure

open ScriptHost.Number ScriptHost.Text

/-- The number of significant digits that count. -/
def significantDigits : Nat := 6

/-- A double rounded to its first significant digits, a half of the exact value to the even digit.
-/
def significant (x : Float) : Float :=
  match parts x with
  | .finite b =>
    if b.mantissa == 0 then 0.0
    else
      let (n, d) := b.fraction
      roundPlaces x (significantDigits - decimalPoint n d)
  | _ => x

/-- The length up to which all items of a list are fed. -/
def itemLimit : Nat := 2000

/-- How many items of a longer list are fed at each end. -/
def endLimit : Nat := 1000

/-- The bytes of a text. -/
def utf8 (s : String) : List UInt8 :=
  s.toUTF8.toList

/-- A digest in hexadecimal digits. -/
def hexText (bytes : List UInt8) : String :=
  String.ofList (bytes.flatMap fun b => hexDigits 2 b.toNat)

/-- The fingerprint of bytes that were fed. -/
def fingerprintOf (stream : List UInt8) : String :=
  hexText (sha256 stream)

/-- The bytes of a datum that has no parts. -/
def Datum.plainStream : Datum → List UInt8
  | .float x => utf8 (floatText (significant x))
  | .complex a => utf8 ("c" ++ floatText (significant a.re) ++ floatText (significant a.im))
  | .text s => utf8 "s" ++ utf8 s
  | .bytes _ content => utf8 "s" ++ content
  | v => utf8 v.form

/-- What a walk feeds where the parts of a datum are not fed themselves. -/
structure WalkRules where
  /-- How many levels are walked below the parts of a datum. -/
  levels : Nat
  /-- What stands for a part that lies deeper. -/
  deep : Datum → List UInt8
  /-- What stands for the middle of a long list. -/
  gap : List UInt8
  /-- What a set feeds, from the fingerprints of its members in their order. -/
  members : List String → List UInt8

/-- The items of a list, or both ends of a long one. -/
def WalkRules.ends (r : WalkRules) (items : List (List UInt8)) : List UInt8 :=
  if items.length ≤ itemLimit then items.flatten
  else (items.take endLimit).flatten ++ r.gap ++ (items.drop (items.length - endLimit)).flatten

/-- The order of fingerprints. -/
def printLe (a b : String) : Bool :=
  textOrder a.toList b.toList != .gt

/-- The bytes of entries in the order of the fingerprints of their keys. -/
def orderedStream (entries : List (String × List UInt8)) : List UInt8 :=
  (entries.mergeSort fun a b => printLe a.1 b.1).flatMap Prod.snd

/-- The mark of a collection and its length. -/
def headStream (mark : String) (count : Nat) : List UInt8 :=
  utf8 (mark ++ toString count)

/-- The bytes that a datum without parts feeds when so many levels are left. -/
def WalkRules.plain (r : WalkRules) : Nat → Datum → List UInt8
  | 0, v => r.deep v
  | _ + 1, v => v.plainStream

/-- An entry of a datum with named fields: the fingerprint of the name, and what name and value
feed. -/
def WalkRules.field (r : WalkRules) (left : Nat) (name : String) (value : List UInt8) :
    String × List UInt8 :=
  (fingerprintOf (Datum.text name).plainStream, r.plain left (.text name) ++ value)

mutual

/-- The bytes that a datum feeds when so many levels are left. -/
def Datum.feed (r : WalkRules) : Datum → Nat → List UInt8
  | v, 0 => r.deep v
  | .list items, left + 1 => headStream "L" items.length ++ r.ends (itemFeeds r left items)
  | .tuple items, left + 1 => headStream "L" items.length ++ r.ends (itemFeeds r left items)
  | .set _ items, _ + 1 =>
    r.members (((itemFeeds r (r.levels + 2) items).map fingerprintOf).mergeSort printLe)
  | .dict entries, left + 1 =>
    headStream "D" entries.length ++ orderedStream (entryFeeds r left entries)
  | .point x y, left + 1 =>
    headStream "D" 2 ++
      orderedStream [r.field left "x" (x.feed r left), r.field left "y" (y.feed r left)]
  | v, _ + 1 => v.plainStream

/-- The bytes that each item of a list feeds. -/
def itemFeeds (r : WalkRules) (left : Nat) : List Datum → List (List UInt8)
  | [] => []
  | v :: vs => v.feed r left :: itemFeeds r left vs

/-- The fingerprint of the key of each entry, and the bytes that its key and its value feed. -/
def entryFeeds (r : WalkRules) (left : Nat) : List (Datum × Datum) → List (String × List UInt8)
  | [] => []
  | (k, v) :: rest =>
    (fingerprintOf (k.feed r (r.levels + 2)), k.feed r left ++ v.feed r left) ::
      entryFeeds r left rest

end

/-- The bytes that a datum feeds. -/
def Datum.stream (r : WalkRules) (v : Datum) : List UInt8 :=
  v.feed r (r.levels + 2)

/-- The fingerprint of a datum. -/
def Datum.fingerprint (r : WalkRules) (v : Datum) : String :=
  fingerprintOf (v.stream r)

end ScriptHost.Measure
