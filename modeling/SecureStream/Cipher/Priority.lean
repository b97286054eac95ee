import SecureStream.Cipher.Suite

/-!
# Priority strings

A priority string names groups of cipher suites that are to be offered, moved or struck out, from
left to right.

* `group?`: the suites that a word stands for;
* `Selection`: the suites offered so far and those that still may be, in order;
* `Command`, `commands?`: what a string says;
* `Priority`, `Priority.read?`: the offered suites and the security level, if the string is
  well-formed and offers any suite.
-/

namespace SecureStream.Cipher

/-- The suites that a word stands for. A word with a plus sign between parts stands for the suites
that all of its parts stand for. -/
def group? (word : String) : Option (Suite → Bool) :=
  let authenticated := fun s : Suite => s.authentication ≠ .none
  match word with
  | "ALL" => some fun s => s.encryption ≠ .null
  | "COMPLEMENTOFALL" | "eNULL" | "NULL" => some fun s => s.encryption = .null
  | "COMPLEMENTOFDEFAULT" => some fun s => !s.isDefault
  | "kRSA" => some fun s => s.exchange = .rsa
  | "kEDH" | "kDHE" | "DH" => some fun s => s.exchange = .dhe
  | "kEECDH" | "kECDHE" | "ECDH" => some fun s => s.exchange = .ecdhe
  | "aRSA" => some fun s => s.authentication = .rsa
  | "aDSS" | "DSS" => some fun s => s.authentication = .dss
  | "aNULL" => some fun s => s.authentication = .none
  | "aECDSA" | "ECDSA" => some fun s => s.authentication = .ecdsa
  | "EDH" | "DHE" => some fun s => s.exchange = .dhe ∧ authenticated s
  | "EECDH" | "ECDHE" => some fun s => s.exchange = .ecdhe ∧ authenticated s
  | "RSA" => some fun s => s.exchange = .rsa ∧ s.authentication = .rsa
  | "ADH" => some fun s => s.exchange = .dhe ∧ s.authentication = .none
  | "AECDH" => some fun s => s.exchange = .ecdhe ∧ s.authentication = .none
  | "AES128" => some fun s => aes s && s.strength = 128
  | "AES256" => some fun s => aes s && s.strength = 256
  | "AES" => some aes
  | "AESGCM" => some fun s => s.encryption = .aesGcm
  | "AESCCM" => some fun s => s.encryption = .aesCcm ∨ s.encryption = .aesCcm8
  | "AESCCM8" => some fun s => s.encryption = .aesCcm8
  | "CAMELLIA128" => some fun s => s.encryption = .camellia ∧ s.strength = 128
  | "CAMELLIA256" => some fun s => s.encryption = .camellia ∧ s.strength = 256
  | "CAMELLIA" => some fun s => s.encryption = .camellia
  | "CHACHA20" => some fun s => s.encryption = .chacha20
  | "ARIA128" => some fun s => s.encryption = .ariaGcm ∧ s.strength = 128
  | "ARIA256" => some fun s => s.encryption = .ariaGcm ∧ s.strength = 256
  | "ARIA" | "ARIAGCM" => some fun s => s.encryption = .ariaGcm
  | "MD5" => some fun s => s.digest = .md5
  | "SHA1" | "SHA" => some fun s => s.digest = .sha1
  | "SHA256" => some fun s => s.digest = .sha256
  | "SHA384" => some fun s => s.digest = .sha384
  | "SSLv3" => some fun s => s.since = .ssl3
  | "TLSv1" | "TLSv1.0" => some fun s => s.since = .tls10
  | "TLSv1.2" => some fun s => s.since = .tls12
  | "HIGH" => some fun s => s.encryption ≠ .null
  | "LOW" | "MEDIUM" | "3DES" | "RC4" | "RC2" | "IDEA" | "SEED" => some fun _ => false
  | name => if Suite.table.any (·.name = name) then some (·.name = name) else none
where
  /-- The suite encrypts with AES in some mode. -/
  aes (s : Suite) : Bool :=
    s.encryption = .aesGcm || s.encryption = .aesCcm || s.encryption = .aesCcm8 ||
      s.encryption = .aesCbc

/-- The suites offered so far and those that still may be, both in order. -/
structure Selection where
  idle : List Suite
  offered : List Suite

/-- What is done with a group of suites. -/
inductive Action
  /-- Offer them after all others. -/
  | offer
  /-- Offer them no longer; they may be offered again. -/
  | withdraw
  /-- Move the offered ones to the end. -/
  | demote
  /-- Strike them out for good. -/
  | strike
  deriving DecidableEq

namespace Selection

/-- Nothing is offered yet. -/
def initial : Selection := ⟨Suite.table, []⟩

/-- Apply an action to a group. -/
def apply (s : Selection) (action : Action) (group : Suite → Bool) : Selection :=
  let (hit, idle) := s.idle.partition group
  let (offeredHit, offered) := s.offered.partition group
  match action with
  | .offer => ⟨idle, s.offered ++ hit⟩
  | .withdraw => ⟨offeredHit ++ s.idle, offered⟩
  | .demote => ⟨s.idle, offered ++ offeredHit⟩
  | .strike => ⟨idle, offered⟩

/-- Order the offered suites by strength, the strongest first, and keep the order of equals. -/
def byStrength (s : Selection) : Selection :=
  { s with offered := s.offered.mergeSort fun a b => b.strength ≤ a.strength }

end Selection

/-- One command of a priority string. -/
inductive Command
  | act (action : Action) (words : List String)
  | special (word : String)

/-- The characters between commands. -/
def isSeparator (c : Char) : Bool := [':', ' ', ';', ','].contains c

/-- The characters of a word. -/
def isWordChar (c : Char) : Bool := c.isAlphanum || ['-', '_', '.', '='].contains c

/-- The words of a command, with a plus sign between them, up to the first unknown one, and the
rest. A word is never empty. -/
def words? (cs : List Char) : Option (List String × List Char) :=
  let word := cs.takeWhile isWordChar
  let name := String.ofList word
  let rest := cs.drop word.length
  if word = [] then none
  else if (group? name).isNone then some ([name], rest)
  else
    match rest with
    | '+' :: rest =>
      if rest.length < cs.length then
        (words? rest).map fun (words, rest) => (name :: words, rest)
      else none
    | _ => some ([name], rest)
termination_by cs.length

/-- The action that a command's first character stands for. -/
def action? (c : Char) : Option Action :=
  match c with
  | '-' => some .withdraw
  | '+' => some .demote
  | '!' => some .strike
  | _ => none

/-- The commands of a string, unless something in it is no command. Whether the words of a command
are known decides how far it reaches: a command with an unknown word ends at the next separator. -/
def commands? (cs : List Char) : Option (List Command) :=
  match cs with
  | [] => some []
  | c :: rest =>
    if isSeparator c then commands? rest
    else if c = '@' then
      let word := rest.takeWhile isWordChar
      let after := rest.dropWhile fun c => !isSeparator c
      if word = [] then none
      else if after.length ≤ rest.length then
        (commands? after).map (.special (String.ofList word) :: ·)
      else none
    else do
      let (action, start) := match action? c with
        | some action => (action, rest)
        | none => (Action.offer, cs)
      let (words, after) ← words? start
      let after := if words.all fun w => (group? w).isSome then after
        else after.dropWhile fun c => !isSeparator c
      if after.length ≤ rest.length then (commands? after).map (.act action words :: ·) else none
termination_by cs.length
decreasing_by
  · simp
  · exact Nat.lt_succ_of_le ‹_ ≤ rest.length›
  · exact Nat.lt_succ_of_le ‹_ ≤ rest.length›

/-- The offered suites and the security level below which nothing is accepted. -/
structure Priority where
  selection : Selection
  level : Nat

namespace Priority

/-- The security level that holds if no command sets another. -/
def defaultLevel : Nat := 2

/-- Carry out one command. A group with an unknown word is passed over; an unknown special command
is an error. -/
def run (p : Priority) : Command → Option Priority
  | .act action words =>
    match words.mapM group? with
    | some groups => some { p with selection := p.selection.apply action fun s => groups.all (· s) }
    | none => some p
  | .special word =>
    if word = "STRENGTH" then some { p with selection := p.selection.byStrength }
    else
      match word.toList with
      | ['S', 'E', 'C', 'L', 'E', 'V', 'E', 'L', '=', d] =>
        if '0' ≤ d ∧ d ≤ '5' then some { p with level := d.toNat - 48 } else none
      | _ => none

/-- The word that stands for the default suites at the front of a string. -/
def defaultWord : List Char := "DEFAULT".toList

/-- The selection of the default suites; the other ones are struck out. -/
def defaults : Selection :=
  ((Selection.initial.apply .offer fun s => s.encryption ≠ .null).apply .strike
    fun s => !s.isDefault).apply .strike fun s => s.encryption = .null

/-- The offered suites of a string, if it is well-formed and offers any. -/
def read? (text : String) : Option Priority := do
  let cs := text.toList
  let (start, cs) :=
    if defaultWord.isPrefixOf cs then
      let rest := cs.drop defaultWord.length
      (defaults, if rest.head? = some ':' then rest.tail else rest)
    else (Selection.initial, cs)
  let p ← (← commands? cs).foldlM run ⟨start, defaultLevel⟩
  if p.selection.offered = [] then none else return p

/-- The suites that may be used at all: one without authentication only at level zero. -/
def usable (p : Priority) : List Suite :=
  p.selection.offered.filter fun s =>
    p.level = 0 || (s.authentication ≠ .none && s.encryption ≠ .null)

end Priority

end SecureStream.Cipher
