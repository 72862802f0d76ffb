import DepGraph.Text.Blank
import DepGraph.Text.Replace

/-!
# Redaction

Messages of other systems repeat the credentials they were given. Before a message is shown, what
follows a word for a secret and an equals sign is **redacted** up to the next blank, and after that
the name and password in front of the host of an address.
-/

namespace DepGraph.Redaction

/-- What stands in place of what is redacted. -/
def mark : List Char := "[REDACTED]".toList

/-! ### Secrets -/

/-- The words for secrets. -/
def words : List (List Char) := ["password".toList, "token".toList, "key".toList, "secret".toList]

/-- Whether a character is a letter of a word, whatever its case; the long s and the sign for kelvin
are letters too. -/
def isLetter (letter c : Char) : Bool :=
  c == letter || c == letter.toUpper || (letter == 's' && c == '\u017f') ||
    (letter == 'k' && c == '\u212a')

/-- Whether characters spell a word, letter by letter. -/
def spells : List Char → List Char → Bool
  | [], [] => true
  | w :: ws, c :: cs => isLetter w c && spells ws cs
  | _, _ => false

/-- The word for a secret that characters start with, as they spell it. -/
def wordOf? (cs : List Char) : Option (List Char) :=
  (words.find? fun w => spells w (cs.take w.length)).map fun w => cs.take w.length

/-- Finds a secret: a word, an equals sign and characters that are not blank. -/
def secret : Text.Finder Char := fun cs =>
  match wordOf? cs with
  | none => none
  | some word =>
    match cs.drop word.length with
    | '=' :: rest =>
      let value := rest.takeWhile fun c => !Text.isBlank c
      if value == [] then none else some (word ++ '=' :: mark, word.length + value.length)
    | _ => none

/-! ### Logins -/

/-- What stands between a scheme and the rest of an address. -/
def schemeEnd : List Char := ['/', '/']

/-- The end of a login. -/
def loginEnd : List Char := ['@']

/-- Finds a login: after a colon and two slashes, a name, a colon, a password and an at sign, with
neither slashes nor blanks in them. -/
def login : Text.Finder Char
  | ':' :: '/' :: '/' :: rest =>
    let name := rest.takeWhile fun c => !(c == '/' || c == ':' || c == '@' || Text.isBlank c)
    match rest.drop name.length with
    | ':' :: rest =>
      let password := rest.takeWhile fun c => !(c == '/' || c == '@' || Text.isBlank c)
      if name == [] || password == [] || (rest.drop password.length).head? != some '@' then none
      else some (':' :: schemeEnd ++ mark ++ loginEnd, name.length + password.length + 4)
    | _ => none
  | _ => none

/-! ### Messages -/

/-- A message with its credentials **redacted**. -/
def redact (message : String) : String :=
  String.ofList (Text.replaceEach login (Text.replaceEach secret message.toList))

end DepGraph.Redaction
