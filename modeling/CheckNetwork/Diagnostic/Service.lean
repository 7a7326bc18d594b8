import CheckNetwork.Diagnostic.Model

/-!
# Greetings of services

A service is believed when it greets first: `verifyServerGreeting` reads the
connection byte by byte until the lines that it has seen settle the matter.
-/

namespace CheckNetwork.Diagnostic

def serviceGreetingAggregateLimit : Nat := 4096

def serviceGreetingLineLimit : Nat := 512

def serviceGreetingLineCountLimit : Nat := 8

/-- The bytes of a text in ASCII. -/
def ascii (text : String) : List UInt8 := text.toList.map fun char => UInt8.ofNat char.toNat

def carriageReturn : UInt8 := 13

def lineFeed : UInt8 := 10

/-! ## Lines -/

/-- Whether a line ends the greeting, and whether it may stand in it. -/
abbrev Accept := List UInt8 → Nat → Bool × Bool

def greetingPrefixWithDelimiter (line start : List UInt8) : Bool :=
  if !start.isPrefixOf line || line.length < start.length + 2 then false
  else (line)[start.length]? = some 32 ||
    (line)[start.length]? = some carriageReturn && (line)[start.length + 1]? = some lineFeed

def acceptSSH : Accept := fun line index =>
  if (ascii "SSH-").isPrefixOf line then
    (line.length ≤ 255 && (ascii "SSH-2.0-").isPrefixOf line, true)
  else (false, index < 7)

def acceptSMTP : Accept := fun line _ =>
  if line.length < 6 ∨ line.take 3 ≠ ascii "220" then (false, false)
  else if (line)[3]? = some 32 then (true, true)
  else if (line)[3]? = some 45 then (false, true)
  else (false, false)

def acceptIMAP : Accept := fun line _ =>
  let valid := greetingPrefixWithDelimiter line (ascii "* OK") ||
    greetingPrefixWithDelimiter line (ascii "* PREAUTH")
  (valid, valid)

def acceptPOP3 : Accept := fun line _ =>
  let valid := greetingPrefixWithDelimiter line (ascii "+OK")
  (valid, valid)

/-! ## Reading -/

/-- What a `Read` of one byte returns: a byte or none, and whether an error came
with it. -/
structure Read where
  byte : Option UInt8
  failed : Bool

/-- A line with one more byte is too long, or has a line feed of its own. -/
def isBroken (line : List UInt8) (byte : UInt8) : Bool :=
  serviceGreetingLineLimit < line.length ||
    byte = lineFeed && (line.length < 2 || (line)[line.length - 2]? ≠ some carriageReturn)

def isComplete (line : List UInt8) : Bool :=
  2 ≤ line.length && (line)[line.length - 2]? = some carriageReturn &&
    (line)[line.length - 1]? = some lineFeed

/-- Whether a greeting was read, and how many bytes were.  Nothing is left to
read after the last of the reads. -/
def readServiceGreeting (accept : Accept) :
    List Read → (line : List UInt8) → (total lineIndex : Nat) → Bool × Nat
  | [], _, total, _ => (false, total)
  | read :: reads, line, total, lineIndex =>
      if serviceGreetingAggregateLimit ≤ total then (false, total)
      else match read.byte with
        | none =>
            if read.failed then (false, total)
            else readServiceGreeting accept reads line total lineIndex
        | some byte =>
            let line := line ++ [byte]
            if isBroken line byte then (false, total + 1)
            else if isComplete line then
              let (done, valid) := accept line lineIndex
              if !valid then (false, total + 1)
              else if done then (true, total + 1)
              else if lineIndex + 1 = serviceGreetingLineCountLimit then (false, total + 1)
              else if read.failed then (false, total + 1)
              else readServiceGreeting accept reads [] (total + 1) (lineIndex + 1)
            else if read.failed then (false, total + 1)
            else readServiceGreeting accept reads line (total + 1) lineIndex

def verifyServerGreeting (reads : List Read) : Kind → Bool × Nat
  | .ssh => readServiceGreeting acceptSSH reads [] 0 0
  | .smtp | .submission | .smtps => readServiceGreeting acceptSMTP reads [] 0 0
  | .imap | .imaps => readServiceGreeting acceptIMAP reads [] 0 0
  | .pop3 | .pop3s => readServiceGreeting acceptPOP3 reads [] 0 0
  | _ => (false, 0)

end CheckNetwork.Diagnostic
