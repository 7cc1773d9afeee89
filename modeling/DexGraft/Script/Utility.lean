import DexGraft.Script.Format
import DexGraft.Script.Machine
import DexGraft.Text.Split

/-!
The programs that scripts are made of. Each takes its streams and arguments,
works on the machine, and gives its exit status.
-/
namespace DexGraft.Script

abbrev Utility := Streams → List String → Shell Nat

def splitOptions : List String → List Char × List String
  | [] => ([], [])
  | argument :: rest =>
      match argument.toList with
      | ['-', '-'] => ([], rest)
      | '-' :: c :: more =>
          let (options, operands) := splitOptions rest
          (c :: more ++ options, operands)
      | _ => ([], argument :: rest)

def succeed : Utility := fun _ _ => return 0

def fail : Utility := fun _ _ => return 1

def echo : Utility := fun streams arguments => do
  let (newline, words) := match arguments with
    | "-n" :: rest => (false, rest)
    | other => (true, other)
  let text := (" ".intercalate words).toList
  let (content, ends) := expandEscapes (text.length + 1) text
  emit streams.output (content ++ if newline && !ends then [10] else [])
  return 0

def printf : Utility := fun streams arguments =>
  match arguments with
  | "--" :: format :: rest | format :: rest => do
      emit streams.output (formatAll format.toList (rest.length + 1) rest)
      return 0
  | [] => do
      emitText streams.errors "printf: usage: printf format [arg ...]\n"
      return 2

def forEach (operands : List String) (action : String → Shell Bool) : Shell Nat :=
  operands.foldlM (fun status operand => do
    let fine ← action operand
    return if fine then status else 1) 0

def complain (streams : Streams) (text : String) : Shell Bool := do
  emitText streams.errors (text ++ "\n")
  return false

def readFile (streams : Streams) (operand : String) : Shell (Except Cause Bytes) := do
  if operand == "-" then return .ok streams.input
  if operand == "/dev/null" then return .ok []
  return (← get).files.read (Path.ofText operand)

def cat : Utility := fun streams arguments => do
  let (_, operands) := splitOptions arguments
  let operands := if operands.isEmpty then ["-"] else operands
  forEach operands fun operand => do
    match ← readFile streams operand with
    | .ok content =>
        emit streams.output content
        return true
    | .error cause => complain streams s!"cat: {operand}: {reasonText cause}"

structure Extent where
  lines : Bool
  count : Nat
  operands : List String

def countOf (text : String) : Nat :=
  (text.toList.filter Text.isAsciiDigit).foldl
    (fun value c => value * 10 + (c.toNat - '0'.toNat)) 0

def extentOf : List String → Extent
  | "-c" :: count :: rest => ⟨false, countOf count, rest⟩
  | "-n" :: count :: rest => ⟨true, countOf count, rest⟩
  | first :: rest =>
      match first.toList with
      | '-' :: 'c' :: _ => ⟨false, countOf first, rest⟩
      | '-' :: 'n' :: _ => ⟨true, countOf first, rest⟩
      | '-' :: _ => ⟨true, countOf first, rest⟩
      | _ => ⟨true, 10, first :: rest⟩
  | [] => ⟨true, 10, []⟩

def firstLines : (count : Nat) → Bytes → Bytes
  | 0, _ => []
  | _ + 1, [] => []
  | count + 1, byte :: rest =>
      if byte == 10 then byte :: firstLines count rest else byte :: firstLines (count + 1) rest

def lastLines (count : Nat) (content : Bytes) : Bytes :=
  let total := content.count 10 + (if content.getLast? == some 10 || content.isEmpty then 0 else 1)
  content.drop (firstLines (total - count) content).length

def partOf (name : String) (part : Extent → Bytes → Bytes) : Utility :=
  fun streams arguments => do
    let extent := extentOf arguments
    let operands := if extent.operands.isEmpty then ["-"] else extent.operands
    forEach operands fun operand => do
      if operand == "/dev/zero" then
        emit streams.output (List.replicate extent.count 0)
        return true
      match ← readFile streams operand with
      | .ok content =>
          emit streams.output (part extent content)
          return true
      | .error cause =>
          complain streams s!"{name}: cannot open '{operand}' for reading: {reasonText cause}"

def head : Utility := partOf "head" fun extent content =>
  if extent.lines then firstLines extent.count content else content.take extent.count

def tail : Utility := partOf "tail" fun extent content =>
  if extent.lines then lastLines extent.count content
  else content.drop (content.length - extent.count)

def countWords : (inside : Bool) → Bytes → Nat
  | _, [] => 0
  | inside, byte :: rest =>
      let isBlank := byte == 32 || (9 ≤ byte && byte ≤ 13)
      (if isBlank || inside then 0 else 1) + countWords (!isBlank) rest

def wordCount : Utility := fun streams arguments => do
  let (options, operands) := splitOptions arguments
  let names := if operands.isEmpty then ["-"] else operands
  forEach names fun operand => do
    match ← readFile streams operand with
    | .ok content =>
        let count := if options.contains 'l' then content.count 10
          else if options.contains 'w' then countWords false content else content.length
        let label := if operands.isEmpty then "" else " " ++ operand
        emitText streams.output (toString count ++ label ++ "\n")
        return true
    | .error cause => complain streams s!"wc: {operand}: {reasonText cause}"

def byteSet : (fuel : Nat) → List Char → Bytes
  | 0, _ => []
  | _ + 1, [] => []
  | fuel + 1, '\\' :: rest =>
      let (bytes, after) := readEscape rest
      bytes ++ byteSet fuel after
  | fuel + 1, first :: '-' :: last :: rest =>
      (List.range (last.toNat + 1 - first.toNat)).map (fun step =>
        UInt8.ofNat (first.toNat + step)) ++ byteSet fuel rest
  | fuel + 1, c :: rest => charBytes c ++ byteSet fuel rest

def translate : Utility := fun streams arguments => do
  let setOf (text : String) : Bytes := byteSet (text.length + 1) text.toList
  match arguments with
  | ["-d", unwanted] =>
      emit streams.output (streams.input.filter fun byte => !(setOf unwanted).contains byte)
      return 0
  | [first, second] =>
      let pairs := (setOf first).zipIdx.map fun entry =>
        (entry.1, (setOf second)[entry.2]?.getD ((setOf second).getLastD 0))
      emit streams.output (streams.input.map fun byte =>
        ((pairs.reverse.find? fun pair => pair.1 == byte).map (·.2)).getD byte)
      return 0
  | _ => return 1

def endsInDot (text : String) : Bool :=
  match text.toList.reverse with
  | ['.'] | '.' :: '/' :: _ => true
  | _ => false

def ownerWrite : Nat := 0o755

def copyFileTo (source target : Path) (files : Files) : Except Cause Files := do
  match ← files.find source with
  | .directory => Files.refuse .isDirectory source
  | .file content mode =>
      let isNew := (← files.find? target).isNone
      let files ← files.write target content
      if isNew then files.setMode target (mode &&& ownerWrite) else .ok files

def copyTreeTo (source target : Path) (files : Files) : Except Cause Files := do
  let origin ← files.resolve source
  let files ← files.makeMissing target
  let goal ← files.resolve target
  return (files.below origin).foldl (fun files entry =>
    match files.node? (goal ++ entry.1), entry.2 with
    | some .directory, .directory => files
    | _, node => files.put (goal ++ entry.1) node) files

/-- Where an operand comes to stand when it is brought to `target`. -/
def goalOf (files : Files) (operand target : String) : Path :=
  let goal := Path.ofText target
  match files.isDirectory goal with
  | .ok true => if endsInDot operand then goal else goal / (Path.ofText operand).name
  | _ => goal

def copyOperand (recursive : Bool) (operand target : String) (files : Files) :
    Except Cause Files := do
  let source := Path.ofText operand
  let goal := goalOf files operand target
  match ← files.find source with
  | .directory =>
      (if recursive then copyTreeTo source goal files else Files.refuse .isDirectory source)
  | .file _ _ =>
      let isSame := (← files.resolve source) = (← files.resolve goal)
      (if isSame then Files.refuse .occupied goal else copyFileTo source goal files)

def copy : Utility := fun streams arguments => do
  let (options, operands) := splitOptions arguments
  let recursive := options.any fun c => c == 'R' || c == 'r' || c == 'a'
  match operands.reverse with
  | target :: first :: more =>
      forEach (first :: more).reverse fun operand => do
        match ← attemptChange (copyOperand recursive operand target) with
        | none => return true
        | some (.file ⟨.isDirectory, _⟩) =>
            complain streams s!"cp: -r not specified; omitting directory '{operand}'"
        | some cause =>
            let isThere := ((← get).files.find (Path.ofText operand)).isOk
            if isThere then
              complain streams
                s!"cp: cannot create regular file '{target}': {reasonText cause}"
            else complain streams s!"cp: cannot stat '{operand}': {reasonText cause}"
  | [only] => do
      let _ ← complain streams s!"cp: missing destination file operand after '{only}'"
      return 1
  | [] => do
      let _ ← complain streams "cp: missing file operand"
      return 1

def move : Utility := fun streams arguments => do
  let (_, operands) := splitOptions arguments
  match operands.reverse with
  | target :: sources =>
      forEach sources.reverse fun operand => do
        let moving (files : Files) :=
          files.rename (Path.ofText operand) (goalOf files operand target)
        match ← attemptChange moving with
        | none => return true
        | some cause => complain streams s!"mv: cannot stat '{operand}': {reasonText cause}"
  | [] => do
      let _ ← complain streams "mv: missing file operand"
      return 1

def removeOperand (recursive : Bool) (operand : String) (files : Files) : Except Cause Files :=
  let path := Path.ofText operand
  match files.find path with
  | .ok .directory => if recursive then files.removeTree path else Files.refuse .isDirectory path
  | _ => files.remove path

def remove : Utility := fun streams arguments => do
  let (options, operands) := splitOptions arguments
  let recursive := options.any fun c => c == 'R' || c == 'r'
  let force := options.contains 'f'
  forEach operands fun operand => do
    match ← attemptChange (removeOperand recursive operand) with
    | none => return true
    | some (.file ⟨.missing, path⟩) =>
        if force then return true
        else complain streams s!"rm: cannot remove '{path}': No such file or directory"
    | some cause => complain streams s!"rm: cannot remove '{operand}': {reasonText cause}"

def makeAll (path : Path) (files : Files) : Except Cause Files :=
  match files.isDirectory path with
  | .ok true => .ok files
  | _ => files.makeDirectories path

def makeDirectory : Utility := fun streams arguments => do
  let (options, operands) := splitOptions arguments
  forEach operands fun operand => do
    let path := Path.ofText operand
    let making (files : Files) :=
      if options.contains 'p' then makeAll path files else files.makeDirectory path
    match ← attemptChange making with
    | none => return true
    | some cause =>
        complain streams s!"mkdir: cannot create directory ‘{operand}’: {reasonText cause}"

def removeDirectory : Utility := fun streams arguments => do
  let (_, operands) := splitOptions arguments
  forEach operands fun operand => do
    let path := Path.ofText operand
    let removing (files : Files) : Except Cause Files := do
      let place ← files.resolve path
      if (files.below place).isEmpty then files.removeTree path else Files.refuse .notEmpty path
    match ← attemptChange removing with
    | none => return true
    | some cause => complain streams s!"rmdir: failed to remove '{operand}': {reasonText cause}"

def touch : Utility := fun streams arguments => do
  let (_, operands) := splitOptions arguments
  forEach operands fun operand => do
    let path := Path.ofText operand
    let touching (files : Files) := match files.find path with
      | .ok _ => .ok files
      | .error _ => files.write path []
    match ← attemptChange touching with
    | none => return true
    | some cause => complain streams s!"touch: cannot touch '{operand}': {reasonText cause}"

def modeOf (text : String) (present : Nat) : Nat :=
  match text.toList with
  | '+' :: 'x' :: _ | 'a' :: '+' :: 'x' :: _ => present ||| 0o111
  | 'u' :: '+' :: 'x' :: _ => present ||| 0o100
  | digits => octalValue digits

def changeMode : Utility := fun streams arguments => do
  match arguments with
  | mode :: operands =>
      forEach operands fun operand => do
        let path := Path.ofText operand
        let changing (files : Files) := match files.find path with
          | .ok (.file _ present) => files.setMode path (modeOf mode present)
          | .ok .directory => .ok files
          | .error cause => .error cause
        match ← attemptChange changing with
        | none => return true
        | some cause => complain streams s!"chmod: cannot access '{operand}': {reasonText cause}"
  | [] => return 1

def withoutSlashes (text : List Char) : List Char :=
  (text.reverse.dropWhile (· == '/')).reverse

def baseName : Utility := fun streams arguments => do
  let (_, operands) := splitOptions arguments
  let text := (operands.headD "").toList
  let name := ((withoutSlashes text).reverse.takeWhile (· != '/')).reverse
  let name := if name.isEmpty && !text.isEmpty then ['/'] else name
  let name := match operands with
    | [_, ending] => if name == ending.toList then name
        else (Text.dropEnd? ending.toList name).getD name
    | _ => name
  emitText streams.output (String.ofList name ++ "\n")
  return 0

def directoryName : Utility := fun streams arguments => do
  let text := (arguments.headD "").toList
  let front := (withoutSlashes text).reverse.dropWhile (· != '/')
  let name := withoutSlashes front.reverse
  let name := if front.isEmpty then (if text.head? == some '/' then ['/'] else ['.'])
    else if name.isEmpty then ['/'] else name
  emitText streams.output (String.ofList name ++ "\n")
  return 0

def statusField (name : String) (node : Node) : Char → String
  | 'a' => match node with
      | .file _ mode => String.ofList (Nat.toDigits 8 mode)
      | .directory => "755"
  | 's' => match node with
      | .file content _ => toString content.length
      | .directory => "4096"
  | 'n' => name
  | c => String.singleton c

def statusLine (name : String) (node : Node) : List Char → String
  | '%' :: c :: rest => statusField name node c ++ statusLine name node rest
  | c :: rest => String.singleton c ++ statusLine name node rest
  | [] => ""

def status : Utility := fun streams arguments =>
  match arguments with
  | "-c" :: format :: operands =>
      forEach operands fun operand => do
        match (← get).files.find (Path.ofText operand) with
        | .ok node =>
            emitText streams.output (statusLine operand node format.toList ++ "\n")
            return true
        | .error cause => complain streams s!"stat: cannot statx '{operand}': {reasonText cause}"
  | _ => return 1

def millisecondsOf (text : String) : Nat :=
  let whole := text.toList.takeWhile (· != '.')
  let places := ((text.toList.dropWhile (· != '.')).drop 1 ++ ['0', '0', '0']).take 3
  let unit := match text.toList.getLast? with
    | some 'm' => 60
    | some 'h' => 3600
    | _ => 1
  (countOf (String.ofList whole) * 1000 + countOf (String.ofList places)) * unit

def sleep : Utility := fun _ arguments => do
  pass ((arguments.map millisecondsOf).foldr (· + ·) 0)
  return 0

def workingDirectory : Utility := fun streams _ => do
  emitText streams.output ((Path.mk 1 (← get).files.here).text ++ "\n")
  return 0

def listNames : Utility := fun streams arguments => do
  let (_, operands) := splitOptions arguments
  let operands := if operands.isEmpty then ["."] else operands
  forEach operands fun operand => do
    let files := (← get).files
    match files.find (Path.ofText operand), files.resolve (Path.ofText operand) with
    | .ok .directory, .ok place =>
        let names := (files.namesIn place).filter fun name => name.toList.head? != some '.'
        for name in names.mergeSort fun a b => a ≤ b do emitText streams.output (name ++ "\n")
        return true
    | .ok (.file _ _), _ =>
        emitText streams.output (operand ++ "\n")
        return true
    | .error cause, _ | _, .error cause =>
        complain streams s!"ls: cannot access '{operand}': {reasonText cause}"

def sequence : Utility := fun streams arguments => do
  let (first, last) := match arguments with
    | [last] => (1, countOf last)
    | [first, last] => (countOf first, countOf last)
    | _ => (1, 0)
  for number in List.range (last + 1 - first) do
    emitText streams.output (toString (first + number) ++ "\n")
  return 0

def fileTest (files : Files) (operator : String) (operand : String) : Bool :=
  let node? := match files.find (Path.ofText operand) with
    | .ok node => some node
    | .error _ => none
  match operator, node? with
  | "-e", some _ | "-r", some _ | "-w", some _ => true
  | "-f", some (.file _ _) => true
  | "-d", some .directory => true
  | "-s", some (.file content _) => !content.isEmpty
  | "-s", some .directory => true
  | "-x", some (.file _ mode) => mode &&& 0o111 != 0
  | "-x", some .directory => true
  | _, _ => false

def compareNumbers (operator : String) (first second : Int) : Option Bool :=
  match operator with
  | "-eq" => some (first == second)
  | "-ne" => some (first != second)
  | "-lt" => some (first < second)
  | "-le" => some (first ≤ second)
  | "-gt" => some (first > second)
  | "-ge" => some (first ≥ second)
  | _ => none

def basicTest (files : Files) : List String → Option Bool
  | [] => some false
  | [word] => some (word != "")
  | ["!", word] => some (word == "")
  | ["-n", word] => some (word != "")
  | ["-z", word] => some (word == "")
  | [operator, word] => some (fileTest files operator word)
  | [first, "=", second] => some (first == second)
  | [first, "==", second] => some (first == second)
  | [first, "!=", second] => some (first != second)
  | [first, operator, second] =>
      match first.trimAscii.toString.toInt?, second.trimAscii.toString.toInt? with
      | some a, some b => compareNumbers operator a b
      | _, _ => none
  | _ => none

def evalTest (files : Files) : (fuel : Nat) → List String → Option Bool
  | 0, _ => none
  | fuel + 1, words =>
      match basicTest files words with
      | some value => some value
      | none =>
          match words.findIdx? (· == "-o"), words.findIdx? (· == "-a"), words with
          | some place, _, _ => do
              let first ← evalTest files fuel (words.take place)
              let second ← evalTest files fuel (words.drop (place + 1))
              return first || second
          | none, some place, _ => do
              let first ← evalTest files fuel (words.take place)
              let second ← evalTest files fuel (words.drop (place + 1))
              return first && second
          | none, none, "!" :: rest => (evalTest files fuel rest).map (!·)
          | _, _, _ => none

def testWords (streams : Streams) (words : List String) : Shell Nat := do
  match evalTest (← get).files (words.length + 1) words with
  | some true => return 0
  | some false => return 1
  | none =>
      let _ ← complain streams "test: bad condition"
      return 2

def test : Utility := testWords

def bracket : Utility := fun streams arguments =>
  match arguments.reverse with
  | "]" :: rest => testWords streams rest.reverse
  | _ => do
      let _ ← complain streams "[: missing ]"
      return 2

def ownUtilities : List (String × Utility) :=
  [(":", succeed), ("true", succeed), ("false", fail), ("echo", echo), ("printf", printf),
    ("test", test), ("[", bracket), ("pwd", workingDirectory)]

def systemUtilities : List (String × Utility) :=
  [("cat", cat), ("cp", copy), ("mv", move), ("rm", remove), ("mkdir", makeDirectory),
    ("rmdir", removeDirectory), ("touch", touch), ("chmod", changeMode), ("head", head),
    ("tail", tail), ("wc", wordCount), ("tr", translate), ("basename", baseName),
    ("dirname", directoryName), ("stat", status), ("sleep", sleep), ("ls", listNames),
    ("seq", sequence), ("true", succeed), ("false", fail), ("echo", echo),
    ("printf", printf), ("test", test), ("[", bracket), ("pwd", workingDirectory),
    ("sync", succeed)]

def shells : List String := ["sh", "dash", "bash"]

def programNames : List String :=
  shells ++ systemUtilities.map (·.1) ++ ["env"]

end DexGraft.Script
