import AnswerQuery.Host.Digest.Kinds
import AnswerQuery.Host.Digest.Sum
import AnswerQuery.Host.Tool.Amount
import AnswerQuery.Host.Tool.Source

/-! Digests of files, and checking them. -/

namespace AnswerQuery.Host.Tool

namespace Digesting

/-- What is computed of a file. -/
inductive Algorithm where
  /-- A number, which is shown as a text with the length of the file. -/
  | sum (show_ : Bytes → Raw)
  /-- Octets, so many. -/
  | digest (size : Nat) (make : Bytes → Bytes)
  /-- As many octets as is wished, up to sixty-four. -/
  | variable_ (make : Nat → Bytes → Bytes)

/-- A number with so many digits at least. -/
def padded (mark : Char) (width number : Nat) : Raw :=
  let digits := decimal number
  List.replicate (width - digits.length) mark ++ digits

/-- How many blocks of so many octets hold a file. -/
def blocks (size : Nat) (octets : Bytes) : Nat := (octets.length + size - 1) / size

/-- The algorithms: what they are called by options and in lines. -/
def algorithms : List (String × String × Algorithm) := [
  ("bsd", "BSD", .sum fun octets =>
    padded '0' 5 (Digest.turnedSum octets) ++ [' '] ++ padded ' ' 5 (blocks 1024 octets)),
  ("sysv", "SYSV", .sum fun octets => decimal (Digest.foldedSum octets) ++ [' '] ++ decimal (blocks 512 octets)),
  ("crc", "CRC", .sum fun octets => decimal (Digest.Crc.sum octets) ++ [' '] ++ decimal octets.length),
  ("md5", "MD5", .digest 16 Digest.Md5.digest),
  ("sha1", "SHA1", .digest 20 Digest.Sha1.digest),
  ("sha224", "SHA224", .digest 28 Digest.Sha2.digest224),
  ("sha256", "SHA256", .digest 32 Digest.Sha2.digest256),
  ("sha384", "SHA384", .digest 48 Digest.Sha2.digest384),
  ("sha512", "SHA512", .digest 64 Digest.Sha2.digest512),
  ("blake2b", "BLAKE2b", .variable_ Digest.Blake2.digest),
  ("sm3", "SM3", .digest 32 Digest.Sm3.digest)]

/-- What to compute. -/
structure Method where
  /-- What lines call it. -/
  tag : String
  /-- How it is done. -/
  algorithm : Algorithm
  /-- How many octets are wished, where that can be told. -/
  size : Nat := 64

/-- The method of a name. -/
def methodOf (name : String) : Method :=
  match algorithms.find? fun known => known.1 == name with
  | some (_, tag, algorithm) => { tag, algorithm }
  | none => { tag := "CRC", algorithm := .sum fun _ => [] }

/-- How many octets a digest has. -/
def Method.octets (method : Method) : Nat :=
  match method.algorithm with
  | .sum _ => 0
  | .digest size _ => size
  | .variable_ _ => method.size

/-- Whether it is wished how many octets a digest has. -/
def Method.varies (method : Method) : Bool :=
  match method.algorithm with
  | .variable_ _ => true
  | _ => false

/-- Octets in two hexadecimal digits each. -/
def hexadecimal (octets : Bytes) : Raw :=
  octets.flatMap fun octet => [Nat.digitChar (octet.toNat / 16), Nat.digitChar (octet.toNat % 16)]

/-- What a method makes of a file. -/
def Method.apply (method : Method) (octets : Bytes) : Raw :=
  match method.algorithm with
  | .sum show_ => show_ octets
  | .digest _ make => hexadecimal (make octets)
  | .variable_ make => hexadecimal (make method.size octets)

/-- Whether a name has to be escaped in a line. -/
def isTroublesome (name : Raw) : Bool := name.any "\\\n\r".toList.contains

/-- A name with escapes. -/
def escaped (name : Raw) : Raw :=
  name.flatMap fun c =>
    if c == '\\' then "\\\\".toList else if c == '\n' then "\\n".toList else if c == '\r' then "\\r".toList else [c]

/-- A name without escapes; none if they make no sense. -/
def unescaped? : Raw → Option Raw
  | [] => some []
  | '\\' :: 'n' :: rest => (unescaped? rest).map ('\n' :: ·)
  | '\\' :: 'r' :: rest => (unescaped? rest).map ('\r' :: ·)
  | '\\' :: '\\' :: rest => (unescaped? rest).map ('\\' :: ·)
  | c :: rest => if c == '\\' || c == '\x00' then none else (unescaped? rest).map (c :: ·)

/-- How digests are written. -/
structure Style where
  /-- Whether lines begin with what the method is called. -/
  tagged : Bool
  /-- Whether files are marked as no texts. -/
  binary : Bool
  /-- What ends lines. -/
  stop : Char
  /-- Whether sums are followed by names. -/
  names : Bool

/-- The line for a file. -/
def Style.line (style : Style) (method : Method) (path : Raw) (digest : Raw) : Raw :=
  match method.algorithm with
  | .sum _ => digest ++ (if style.names then ' ' :: path else []) ++ [style.stop]
  | _ =>
    let escapes := style.stop == '\n' && isTroublesome path
    let shown := if escapes then escaped path else path
    let mark := if escapes then ['\\'] else []
    if style.tagged then
      let length := if method.varies && method.size < 64 then '-' :: decimal (8 * method.size) else []
      mark ++ method.tag.toList ++ length ++ " (".toList ++ shown ++ ") = ".toList ++ digest ++ [style.stop]
    else mark ++ digest ++ [' ', if style.binary then '*' else ' '] ++ shown ++ [style.stop]

/-- What a line says that is to be checked. -/
structure Claim where
  /-- How the digest is made. -/
  method : Method
  /-- The digest. -/
  digest : Raw
  /-- The file. -/
  path : Raw

/-- Whether a text is made of so many hexadecimal digits. -/
def isHexadecimal (count : Nat) (text : Raw) : Bool :=
  text.length == count && text.all fun c => Numeral.isDigitIn 16 c

/-- Whether a character is a blank within a line. -/
def isBlank (c : Char) : Bool := c == ' ' || c == '\t'

/-- Read what follows the name of a method in a line. -/
def readTagged (method : Method) (escapes : Bool) (text : Raw) : Option Claim := do
  let (method, text) ← match method.varies, text with
    | true, '-' :: rest =>
      let digits := rest.takeWhile Char.isDigit
      let bits := Numeral.valueOf 10 digits
      if digits.isEmpty || bits == 0 || 512 < bits || bits % 8 != 0 then none
      else some ({ method with size := bits / 8 }, rest.drop digits.length)
    | true, text => some ({ method with size := 64 }, text)
    | false, text => some (method, text)
  let text := if text.head? == some ' ' then text.drop 1 else text
  match text with
  | '(' :: rest => do
    let behind := (rest.reverse.takeWhile (· != ')')).reverse
    if behind.length == rest.length then none
    let name := rest.take (rest.length - behind.length - 1)
    let path ← if escapes then unescaped? name else some name
    match behind.dropWhile isBlank with
    | '=' :: digest =>
      let digest := digest.dropWhile isBlank
      if isHexadecimal (2 * method.octets) digest then some ⟨method, digest, path⟩ else none
    | _ => none
  | _ => none

/-- Read what follows blanks in a line. The flag tells whether lines have one blank between digest and name, once that is
known; the line may make it known. -/
def readPlain (method : Method) (escapes : Bool) (single : Option Bool) (text : Raw) :
    Option Claim × Option Bool :=
  let count := if method.varies then (text.takeWhile fun c => Numeral.isDigitIn 16 c).length else 2 * method.octets
  let method := if method.varies then { method with size := count / 2 } else method
  let digest := text.take count
  let fits := isHexadecimal count digest && (!method.varies || (2 ≤ count && count % 2 == 0 && count ≤ 128)) &&
    count + 2 ≤ text.length
  match if fits then text.drop count else [] with
  | [] => (none, single)
  | blank :: rest =>
    if !isBlank blank then (none, single)
    else
      let one := rest.length == 1 || (rest.head? != some ' ' && rest.head? != some '*')
      if one && single == some false then (none, single)
      else
        let (single, name) := if one then (some true, rest) else
          if single == some true then (single, rest) else (some false, rest.drop 1)
        let path := if escapes then unescaped? name else some name
        (path.map fun path => ⟨method, digest, path⟩, single)

/-- Read a line by a method; none stands for whichever the line names. -/
def readClaim (method : Option Method) (single : Option Bool) (text : Raw) : Option Claim × Option Bool :=
  let text := text.dropWhile isBlank
  let escapes := text.head? == some '\\'
  let text := if escapes then text.drop 1 else text
  let named := algorithms.find? fun known =>
    let tag := known.2.1.toList
    tag.isPrefixOf text && ((text.drop tag.length).head?.map fun c => [' ', '(', '-'].contains c).getD false
  match method, named with
  | none, some (name, tag, .sum _) =>
    let _ := name
    let _ := tag
    (none, single)
  | none, some (name, tag, _) => (readTagged (methodOf name) escapes (text.drop tag.length), single)
  | none, none => (none, single)
  | some method, _ =>
    let tag := method.tag.toList
    if tag.isPrefixOf text then (readTagged method escapes (text.drop tag.length), single)
    else readPlain method escapes single text

/-- How files are checked. -/
structure Checking where
  /-- The method, unless lines tell it. -/
  method : Option Method
  /-- What complaints call the method. -/
  tag : String
  /-- Whether nothing is said. -/
  silent : Bool
  /-- Whether nothing is said of files that are as they should be. -/
  quiet : Bool
  /-- Whether lines that make no sense are complained of one by one. -/
  warns : Bool
  /-- Whether lines that make no sense count as failures. -/
  strict : Bool
  /-- Whether files that are not there are passed over. -/
  lenient : Bool

/-- How often what was found. -/
structure Tally where
  /-- Lines that make no sense. -/
  senseless : Nat := 0
  /-- Files that cannot be read. -/
  unread : Nat := 0
  /-- Digests that do not match. -/
  mismatched : Nat := 0
  /-- Whether there was a line that makes sense. -/
  sensible : Bool := false
  /-- Whether a digest matched. -/
  matched : Bool := false
  /-- Whether lines have one blank between digest and name, once that is known. -/
  single : Option Bool := none

/-- Check what a line claims. -/
def Checking.claim (checking : Checking) (tally : Tally) (claim : Claim) : Act Tally := do
  let tally := { tally with sensible := true }
  let shown := if isTroublesome claim.path then '\\' :: escaped claim.path else claim.path
  match ← Act.readFile claim.path with
  | .error reason =>
    if checking.lenient && reason == OsError.noEntry then pure tally
    else do
      Act.complainFile claim.path reason
      if !checking.silent then Act.sayLine (shown ++ ": FAILED open or read".toList)
      pure { tally with unread := tally.unread + 1 }
  | .ok octets =>
    let matches_ := claim.method.apply octets == claim.digest.map Char.toLower
    if !checking.silent then
      if !matches_ then Act.sayLine (shown ++ ": FAILED".toList)
      else if !checking.quiet then Act.sayLine (shown ++ ": OK".toList)
    pure (if matches_ then { tally with matched := true } else { tally with mismatched := tally.mismatched + 1 })

/-- A warning about so many things. -/
def warn (count : Nat) (one many : String) : Act Unit := do
  if count != 0 then
    Act.complain ("WARNING: ".toList ++ decimal count ++ [' '] ++ (if count = 1 then one else many).toList)

/-- Check the lines of a file; the result tells whether all is as it should be. -/
def Checking.run (checking : Checking) (path : Raw) : Act Bool := do
  let name := if path == ['-'] then "standard input".toList else path
  match ← Act.readFile path with
  | .error reason => do
    if reason == OsError.isDirectory then Act.complain (nameFor name ++ ": read error".toList)
    else Act.complainFile name reason
    pure false
  | .ok octets => do
    let mut tally : Tally := {}
    for (line, place) in (linesOf '\n' (Raw.ofOctets octets)).zipIdx do
      let text := if line.text.getLast? == some '\r' then line.text.dropLast else line.text
      if text.head? != some '#' && !text.isEmpty then
        let (claim, single) := readClaim checking.method tally.single text
        tally := { tally with single }
        let sensible := claim.filter fun claim => !(path == ['-'] && claim.path == ['-'])
        match sensible with
        | some claim => tally ← checking.claim tally claim
        | none => do
          tally := { tally with senseless := tally.senseless + 1 }
          if checking.warns then
            Act.complain (nameFor name ++ ": ".toList ++ decimal (place + 1) ++ ": improperly formatted ".toList ++
              checking.tag.toList ++ " checksum line".toList)
    if !tally.sensible then
      Act.complain (nameFor name ++ ": no properly formatted checksum lines found".toList)
    else if !checking.silent then
      warn tally.senseless "line is improperly formatted" "lines are improperly formatted"
      warn tally.unread "listed file could not be read" "listed files could not be read"
      warn tally.mismatched "computed checksum did NOT match" "computed checksums did NOT match"
      if checking.lenient && !tally.matched then
        Act.complain (nameFor name ++ ": no file was verified".toList)
    pure (tally.sensible && tally.matched && tally.mismatched == 0 && tally.unread == 0 &&
      (!checking.strict || tally.senseless == 0))

/-- The options about checking. -/
def checkOptions : List Known :=
  [⟨"c", "check", .nothing⟩, ⟨"ignore-missing", "ignore-missing", .nothing⟩, ⟨"quiet", "quiet", .nothing⟩,
    ⟨"status", "status", .nothing⟩, ⟨"w", "warn", .nothing⟩, ⟨"strict", "strict", .nothing⟩,
    ⟨"tag", "tag", .nothing⟩, ⟨"z", "zero", .nothing⟩]

/-- The options that make sense only for checking, in the order in which they are complained about. -/
def onlyForChecking : List (String × String) :=
  [("ignore-missing", "ignore-missing"), ("status", "status"), ("w", "warn"), ("quiet", "quiet"), ("strict", "strict")]

/-- How many octets are wished, if that is told. -/
def sizeOf (invocation : Invocation) : Act (Option Nat) := do
  let mut size : Option Nat := none
  for text in invocation.arguments "l" do
    let bits ← Act.amount 1 "invalid length" {} 0 (Int.ofNat (Numeral.wordCount - 1)) text
    if bits.toNat % 8 != 0 then
      Act.complain ("invalid length: ".toList ++ quoted text)
      Act.die 1 "length is not a multiple of 8".toList
    size := some (bits.toNat / 8)
  pure (size.filter (· != 0))

/-- End the program because too many octets are wished. -/
def refuseSize {α : Type} (invocation : Invocation) : Act α := do
  Act.complain ("invalid length: ".toList ++ quoted ((invocation.argument? "l").getD []))
  Act.die 1 "maximum digest length for 'BLAKE2b' is 512 bits".toList

/-- Write the lines for all files. It can be told in front of the first one that the machine helps. -/
def writeSums (tells : Bool) (style : Style) (method : Method) (operands : List Raw) : Act Unit := do
  let mut tells := tells
  for path in (if operands.isEmpty then [['-']] else operands) do
    match ← Act.readFile path with
    | .error reason => do
      Act.complainFile path reason
      Act.fail 1
    | .ok octets => do
      if tells then Act.complain "using pclmul hardware support".toList
      tells := false
      Act.say (style.line method path (method.apply octets))

/-- Check files, or write their digests, as options tell. -/
def run (general : Bool) (invocation : Invocation) (tag : String) (method : Option Method) (plain : Method) :
    Act Unit := do
  let checks := invocation.has "c"
  let tagged := match invocation.last? ["tag", "untagged"] with
    | some key => some (key == "tag")
    | none => none
  let binary := (invocation.last? ["b", "t", "tag"]).map fun key => key != "t"
  let meaningless := "meaningless when verifying checksums"
  if tagged == some true && binary == some false then
    Act.refuse 1 (if general then "--text mode is only supported with --untagged" else
      "--tag does not support --text mode").toList
  if invocation.has "z" && checks then
    Act.refuse 1 "the --zero option is not supported when verifying checksums".toList
  if tagged == some true && checks && !general then
    Act.refuse 1 ("the --tag option is " ++ meaningless).toList
  if binary.isSome && checks then
    Act.refuse 1 ("the --binary and --text options are " ++ meaningless).toList
  let speech := invocation.last? ["status", "quiet", "w"]
  for (key, word) in onlyForChecking do
    let asked := if ["status", "quiet", "w"].contains key then speech == some key else invocation.has key
    if asked && !checks then
      Act.refuse 1 ("the --" ++ word ++ " option is meaningful only when verifying checksums").toList
  if checks then
    let checking : Checking := {
      method, tag, silent := speech == some "status", quiet := speech == some "quiet", warns := speech == some "w"
      strict := invocation.has "strict", lenient := invocation.has "ignore-missing" }
    for path in (if invocation.operands.isEmpty then [['-']] else invocation.operands) do
      if !(← checking.run path) then Act.fail 1
  else
    let style : Style := {
      tagged := tagged.getD general, binary := binary == some true
      stop := if invocation.has "z" then '\x00' else '\n', names := !invocation.operands.isEmpty }
    writeSums (invocation.has "debug" && plain.tag == "CRC") style plain invocation.operands

/-- A program for one method. -/
def only (name : String) : Utility := ofAct fun arguments => do
  let method := methodOf name
  let length : List Known := if method.varies then [⟨"l", "length", .always⟩] else []
  let known := length ++ checkOptions ++ [⟨"b", "binary", .nothing⟩, ⟨"t", "text", .nothing⟩]
  let invocation ← Act.readChecked 1 known false (fun invocation => discard (sizeOf invocation)) arguments
  let size ← sizeOf invocation
  if 64 < size.getD 0 then refuseSize invocation
  let method := { method with size := size.getD 64 }
  run false invocation method.tag (some method) method

end Digesting

open Digesting in
/-- Write sums or digests of files, by the method that is asked for. -/
def cksum : Utility := ofAct fun arguments => do
  let known : List Known := ⟨"l", "length", .always⟩ :: checkOptions ++
    [⟨"a", "algorithm", .always⟩, ⟨"debug", "debug", .nothing⟩, ⟨"untagged", "untagged", .nothing⟩, ⟨"b", "", .nothing⟩,
      ⟨"t", "", .nothing⟩]
  let nameOf := fun (invocation : Invocation) => (invocation.arguments "a").foldlM (fun (_ : Option String) text =>
    some <$> Act.chooseWhole "--algorithm" (algorithms.map fun known => ([known.1], known.1)) text) none
  let invocation ← Act.readChecked 1 known false (fun invocation => do
    discard (sizeOf invocation)
    discard (nameOf invocation)) arguments
  let name ← nameOf invocation
  let method := methodOf (name.getD "crc")
  let size ← sizeOf invocation
  if size.isSome && !method.varies then
    Act.die 1 "--length is only supported with --algorithm=blake2b".toList
  if 64 < size.getD 0 then refuseSize invocation
  let method := { method with size := size.getD 64 }
  if invocation.has "c" && name.isSome && method.octets == 0 then
    Act.die 1 "--check is not supported with --algorithm=\x7bbsd,sysv,crc\x7d".toList
  run true invocation method.tag (name.map fun _ => method) method

open Digesting in
/-- Write sums of files in sixteen bits. -/
def sum : Utility := ofAct fun arguments => do
  let known : List Known := [⟨"r", "", .nothing⟩, ⟨"s", "sysv", .nothing⟩]
  let invocation ← Act.readOptions 1 known false arguments
  let method := methodOf (if invocation.last? ["r", "s"] == some "s" then "sysv" else "bsd")
  writeSums false { tagged := false, binary := false, stop := '\n', names := !invocation.operands.isEmpty } method
    invocation.operands

/-- The programs of this kind. -/
def digestTools : List (String × Utility) :=
  [("b2sum", Digesting.only "blake2b"), ("cksum", cksum), ("md5sum", Digesting.only "md5"),
    ("sha1sum", Digesting.only "sha1"), ("sha224sum", Digesting.only "sha224"), ("sha256sum", Digesting.only "sha256"),
    ("sha384sum", Digesting.only "sha384"), ("sha512sum", Digesting.only "sha512"), ("sum", sum)]

end AnswerQuery.Host.Tool
