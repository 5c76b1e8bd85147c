import SquareSums.Text.Unprintable

/-! Text between double quotes. Quotes, backslashes and the four usual controls have two-character
escapes; every other character without a picture is written as its code point in hexadecimal. -/

namespace SquareSums.Quoted

def codePoint (character : Char) : List Char :=
  ['\\', 'u', '\x7b'] ++ Nat.toDigits 16 character.toNat ++ ['\x7d']

def encodeChar (character : Char) : List Char :=
  if character = '\x00' then ['\\', '0']
  else if character = '\t' then ['\\', 't']
  else if character = '\r' then ['\\', 'r']
  else if character = '\n' then ['\\', 'n']
  else if character = '"' then ['\\', '"']
  else if character = '\\' then ['\\', '\\']
  else if Unprintable.holds character then codePoint character
  else [character]

def encode (text : String) : String :=
  String.ofList ('"' :: text.toList.flatMap encodeChar ++ ['"'])

end SquareSums.Quoted
