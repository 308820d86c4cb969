import Mathlib

/-! # Text

Strings as lists of characters. Lengths are in bytes of UTF-8. -/

namespace ServiceOS

abbrev Text : Type := List Char

namespace Text

def byteLength (text : Text) : Nat := (text.map Char.utf8Size).sum

def toBytes (text : Text) : List UInt8 := text.flatMap String.utf8EncodeChar

theorem length_toBytes (text : Text) : text.toBytes.length = text.byteLength := by
  rw [toBytes, List.length_flatMap, byteLength]
  simp only [String.length_utf8EncodeChar]

def fromBytes? (bytes : List UInt8) : Option Text :=
  bytes.toByteArray.utf8Decode?.map Array.toList

theorem fromBytes?_toBytes (text : Text) : fromBytes? text.toBytes = some text := by
  have decoded : text.toBytes.toByteArray.utf8Decode? = some text.toArray :=
    List.utf8Decode?_utf8Encode
  rw [fromBytes?, decoded, Option.map_some]

theorem toBytes_injective : Function.Injective toBytes := by
  intro first second same
  have decoded := congrArg fromBytes? same
  rw [fromBytes?_toBytes, fromBytes?_toBytes] at decoded
  exact Option.some.inj decoded

abbrev Fixed (capacity : Nat) : Type := { text : Text // text.byteLength ≤ capacity }

namespace Fixed

def empty : Fixed capacity := ⟨[], Nat.zero_le _⟩

def set (current : Fixed capacity) (value : Text) : Fixed capacity :=
  if fits : value.byteLength ≤ capacity then ⟨value, fits⟩ else current

end Fixed

end Text

end ServiceOS
