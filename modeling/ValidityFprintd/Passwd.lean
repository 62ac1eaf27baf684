import ValidityFprintd.Usb

/-! `/etc/passwd`, which maps login names to uids and back. -/

namespace ValidityFprintd.Passwd

def stripReturn (line : Text) : Text :=
  if line.getLast? = some '\r' then line.dropLast else line

/-- `str::lines`: what follows the last line feed is a line only if it is not empty. -/
def lines (text : Text) : List Text :=
  let parts := text.splitOn '\n'
  parts.dropLast.map stripReturn ++ (parts.getLast?.toList.filter fun last => !last.isEmpty)

def fields (line : Text) : List Text := line.splitOn ':'

def digit (c : Char) : Option Nat :=
  if '0' ≤ c ∧ c ≤ '9' then some (c.toNat - '0'.toNat) else none

def addDigit (n : UInt32) (c : Char) : Except String UInt32 :=
  match digit c with
  | none => .error "invalid digit found in string"
  | some d =>
    if n.toNat * 10 + d < 2 ^ 32 then .ok (UInt32.ofNat (n.toNat * 10 + d))
    else .error "number too large to fit in target type"

/-- `str::parse::<u32>`. -/
def parseU32 (text : Text) : Except String UInt32 :=
  match text with
  | [] => .error "cannot parse integer from empty string"
  | ['+'] => .error "invalid digit found in string"
  | '+' :: digits => digits.foldlM addDigit 0
  | digits => digits.foldlM addDigit 0

/-- The first entry of the user counts, whether it is well formed or not. -/
def uidForUser (passwd : Except String Text) (username : Text) : Except String UInt32 :=
  match passwd with
  | .error e => .error (Usb.context "reading /etc/passwd" e)
  | .ok text =>
    match (lines text).find? fun line => (fields line).head? = some username with
    | none => .error ("no such user: " ++ String.ofList username)
    | some line =>
      match (fields line)[2]? with
      | none => .error "malformed passwd entry"
      | some uid => (parseU32 uid).mapError (Usb.context "parsing uid")

def nameIn (uid : UInt32) (line : Text) : Option Text :=
  match fields line with
  | name :: _ :: id :: _ => if (parseU32 id).toOption = some uid then some name else none
  | _ => none

def usernameForUid (passwd : Except String Text) (uid : UInt32) : Except String Text :=
  match passwd with
  | .error e => .error (Usb.context "reading /etc/passwd" e)
  | .ok text =>
    match (lines text).findSome? (nameIn uid) with
    | none => .error s!"no user with uid {uid}"
    | some name => .ok name

end ValidityFprintd.Passwd
