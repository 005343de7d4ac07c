import ScriptBridge.Callback
import ScriptBridge.Text.Escaped

/-!
# Quoted text

A text in quotes, as descriptions show it: quotes, backslashes and the usual control characters are
escaped with a backslash, and every other character that would not be seen is given by its number.
-/

namespace ScriptBridge

namespace Quoted

/-- A character inside quotes. -/
def character (c : Char) : List Char :=
  if c = '\x00' then ['\\', '0']
  else if c = '\t' then ['\\', 't']
  else if c = '\r' then ['\\', 'r']
  else if c = '\n' then ['\\', 'n']
  else if c = '"' then ['\\', '"']
  else if c = '\\' then ['\\', '\\']
  else if Escaped.holds c.toNat then
    ['\\', 'u', '\x7b'] ++ Nat.toDigits 16 c.toNat ++ ['\x7d']
  else [c]

end Quoted

/-- The text in quotes. -/
def quotedText (text : String) : String :=
  "\"" ++ String.ofList (text.toList.flatMap Quoted.character) ++ "\""

/-- The description of a callback, without its body. -/
def Callback.description {β : Type} (callback : Callback β) : String :=
  "HostCallback \x7b name: " ++ quotedText callback.name ++ ", min_args: "
    ++ toString callback.minArgs ++ ", .. \x7d"

end ScriptBridge
