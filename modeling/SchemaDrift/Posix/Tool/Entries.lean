import SchemaDrift.Posix.Tool.Lines

namespace SchemaDrift.Tool

/-- What stands behind the last slash of a path, or in front of it. -/
def pathPart (last : Bool) (path : Text) : Text :=
  let path := if path.all (· = '/') then path.take 1 else (path.reverse.dropWhile (· = '/')).reverse
  match Text.beforeLast? '/' path with
  | none => if last then path else if path = [] then "." else "."
  | some directory =>
    if path = "/" then path
    else if last then path.drop (directory.length + 1)
    else
      let directory := (directory.reverse.dropWhile (· = '/')).reverse
      if directory = [] then "/" else directory

/-- The path of what has a name in a directory. -/
def below (directory name : Text) : Text :=
  if directory.getLast? = some '/' then directory ++ name else directory ++ '/' :: name

/-- Changes the files path by path and tells what has been done, of the files as they were before; a path
for which that is not possible is reported and passed over. -/
def changing (around : Surroundings) (paths : List Text)
    (change : FileTree → Text → Except Text FileTree) (told : FileTree → Text → Text := fun _ _ => []) : Effect :=
  let (files, e) := paths.foldl (fun (files, (e : Effect)) path =>
    match change files path with
    | .ok changed => (changed, if told files path = [] then e else e.andThen (.output (Utf8.encode (told files path))))
    | .error message => (files, e.andThen (.complaint 1 message))) (around.files, ({} : Effect))
  { e with files := some files }

/-- A fault in the words of a program that tells what it could not do with a path. -/
def refusal (called attempt path : Text) (f : HostFault) : Text :=
  called ++ ": " ++ attempt ++ " " ++ quoted path ++ ": " ++ reason f

def touch (around : Surroundings) (called : Text) (arguments : List Text) : Effect :=
  withOptions called
    { flags := "acfhm".toList, valued := "drt".toList, long := [("no-create".toList, 'c'), ("date".toList, 'd'), ("reference".toList, 'r')] }
    arguments fun o =>
    if o.operands = [] then misuse called "missing file operand"
    else
      changing around o.operands fun files path =>
        let isMissing : Bool := match files.locate path with
          | .error .noSuchFile => true
          | _ => false
        if files.pathExists path ∨ o.has 'c' ∧ isMissing then .ok files
        else ((files.openFile path false false).map Prod.snd).mapError (refusal called "cannot touch" path)

/-- The paths of the directories that a path leads down through, with its own at the end. -/
def ancestors (path : Text) : List Text :=
  let names := FileTree.pathNames path
  (List.range names.length).map fun n =>
    (if path.head? = some '/' then ['/'] else []) ++ List.intercalate "/" (names.take (n + 1))

def makeDirectories (around : Surroundings) (called : Text) (arguments : List Text) : Effect :=
  withOptions called
    { flags := "pv".toList, valued := ['m'], long := [("parents".toList, 'p'), ("mode".toList, 'm'), ("verbose".toList, 'v')] }
    arguments fun o =>
    if o.operands = [] then misuse called "missing operand"
    else
      let make (files : FileTree) (path : Text) : Except Text FileTree :=
        let names := FileTree.pathNames path
        let made := do
          FileTree.checkPath path
          if o.has 'p' then files.makeDirectories (files.start path) names.reverse
          else files.makeDirectory (files.start path) names
        let named := if o.has 'p' then
            (((List.range names.length).map fun n => names.take (n + 1)).find? fun ns =>
              match files.walk (files.start path) ns with
              | .ok l => !files.isDirectory l
              | .error _ => false).elim path fun ns =>
                (if path.head? = some '/' then ['/'] else []) ++ List.intercalate "/" ns
          else path
        made.mapError (refusal called "cannot create directory" named)
      let told (files : FileTree) (path : Text) : Text :=
        let paths := if o.has 'p' then ((ancestors path).filter (!files.pathExists ·)) else [path]
        if o.has 'v' then paths.flatMap fun p => called ++ ": created directory " ++ quoted p ++ "\n" else []
      changing around o.operands make told

def removeDirectories (around : Surroundings) (called : Text) (arguments : List Text) : Effect :=
  withOptions called { flags := "pv".toList, long := [("parents".toList, 'p')] } arguments fun o =>
    if o.operands = [] then misuse called "missing operand"
    else
      let chain (path : Text) : List Text :=
        if o.has 'p' then (ancestors path).reverse else [path]
      changing around (o.operands.flatMap chain) fun files path =>
        let removed : Except HostFault FileTree := do
          let l ← files.locateEntry path
          if !files.isDirectory l then throw .notADirectory
          else if files.namesIn l ≠ [] then throw .notEmpty
          else return files.remove l
        removed.mapError (refusal called "failed to remove" path)

def remove (around : Surroundings) (called : Text) (arguments : List Text) : Effect :=
  withOptions called
    { flags := "dfirRvI".toList
      long := [("force", 'f'), ("recursive", 'r'), ("dir", 'd'), ("verbose", 'v')].map fun (n, c) => (n.toList, c) } arguments fun o =>
    let recursive := o.has 'r' || o.has 'R'
    let told (files : FileTree) (path : Text) : Text :=
      if !o.has 'v' then []
      else
        match files.locateEntry path with
        | .error _ => []
        | .ok l =>
          let inside := files.entries.filterMap fun (k, e) =>
            if l.isPrefixOf k && k ≠ l then some (List.intercalate "/" (path :: k.drop l.length), e) else none
          (inside ++ ((files.entry? l).map (path, ·)).toList).flatMap fun (p, e) =>
            (if e = .directory then "removed directory " else "removed ") ++ quoted p ++ "\n"
    let take (files : FileTree) (path : Text) : Except Text FileTree :=
        let name := pathPart true path
        match files.locateEntry path with
        | .error f =>
          if o.has 'f' ∧ (f = .noSuchFile ∨ f = .notADirectory) then .ok files
          else .error (refusal called "cannot remove" path f)
        | .ok l =>
          if !files.isDirectory l then .ok (files.remove l)
          else if recursive then
            if name = "." ∨ name = ".." then
              .error (called ++ ": refusing to remove '.' or '..' directory: skipping " ++ quoted path)
            else if l = [] then
              .error (called ++ ": it is dangerous to operate recursively on " ++ quoted path ++ "\n" ++ called ++
                ": use --no-preserve-root to override this failsafe")
            else .ok (files.remove l)
          else if o.has 'd' then
            if files.namesIn l = [] then .ok (files.remove l) else .error (refusal called "cannot remove" path .notEmpty)
          else .error (refusal called "cannot remove" path .isADirectory)
    if o.operands = [] then if o.has 'f' then {} else misuse called "missing operand"
    else changing around o.operands take told

/-- The sources of a transfer and the paths they are to get, or what is wrong with the operands. -/
def transfers (files : FileTree) (called : Text) (o : Options) : Except Effect (List (Text × Text)) :=
  match o.value? 't', o.operands with
  | some directory, paths =>
    if !(files.find? directory).any (· = .directory) then
      .error (.complaint 1 (called ++ ": target directory " ++ quoted directory ++ ": No such file or directory"))
    else .ok (paths.map fun p => (p, below directory (pathPart true p)))
  | none, [] => .error (misuse called "missing file operand")
  | none, [a] => .error (misuse called ("missing destination file operand after " ++ quoted a))
  | none, paths =>
    let target := paths.getLastD []
    let sources := paths.dropLast
    let isInto := (files.find? target).any (· = .directory) && !o.has 'T'
    if isInto then .ok (sources.map fun p => (p, below target (pathPart true p)))
    else
      match sources with
      | [a] => .ok [(a, target)]
      | _ =>
        let why := if files.pathExists target then "Not a directory" else "No such file or directory"
        .error (.complaint 1 (called ++ ": target " ++ quoted target ++ ": " ++ why))

def isBelow (l target : Location) : Bool := l.isPrefixOf target && l ≠ target

/-- Moves one entry to another path. -/
def moveOne (called : Text) (o : Options) (files : FileTree) (path target : Text) : Except Text FileTree := do
  let l ← (files.locateEntry path).mapError (refusal called "cannot stat" path)
  let failed (f : HostFault) : Text := called ++ ": cannot move " ++ quoted path ++ " to " ++ quoted target ++ ": " ++ reason f
  let names := target.splitOn '/'
  let inner := (names.reverse.dropWhile (· = [])).reverse
  let m ← (do FileTree.checkPath target; files.place (files.start target) inner).mapError failed
  if l = m then throw (called ++ ": " ++ quoted path ++ " and " ++ quoted target ++ " are the same file")
  else if files.isDirectory l ∧ isBelow l m then
    throw (called ++ ": cannot move " ++ quoted path ++ " to a subdirectory of itself, " ++ quoted target)
  else
    match files.entry? m with
    | some .directory =>
      if !files.isDirectory l then throw (called ++ ": cannot overwrite directory " ++ quoted target ++ " with non-directory")
      else if files.namesIn m ≠ [] then throw (failed .notEmpty)
      else return files.move l m
    | some _ =>
      if o.has 'n' then return files
      else if files.isDirectory l then
        throw (called ++ ": cannot overwrite non-directory " ++ quoted target ++ " with directory " ++ quoted path)
      else return files.move l m
    | none => if inner.length < names.length ∧ !files.isDirectory l then throw (failed .notADirectory) else return files.move l m

def transferForm : OptionForm :=
  { flags := "abfHiLnPpRruvTdsl".toList, valued := "tS".toList
    long := [("force", 'f'), ("no-clobber", 'n'), ("verbose", 'v'), ("recursive", 'r'), ("target-directory", 't'),
      ("no-target-directory", 'T'), ("archive", 'a'), ("symbolic", 's'), ("interactive", 'i')].map
        fun (n, c) => (n.toList, c) }

/-- Carries out transfers one by one. -/
def transferring (around : Surroundings) (called : Text) (o : Options)
    (one : FileTree → Text → Text → Except Text FileTree) (verb : Text → Text → Text) : Effect :=
  match transfers around.files called o with
  | .error e => e
  | .ok ps =>
    let (files, e) := ps.foldl (fun (files, (e : Effect)) (path, target) =>
      match one files path target with
      | .ok files => (files, if o.has 'v' then e.andThen (.line (verb path target)) else e)
      | .error message => (files, e.andThen (.complaint 1 message))) (around.files, ({} : Effect))
    { e with files := some files }

def mv (around : Surroundings) (called : Text) (arguments : List Text) : Effect :=
  withOptions called transferForm arguments fun o =>
    transferring around called o (moveOne called o) fun a b => "renamed " ++ quoted a ++ " -> " ++ quoted b

/-- Copies one entry to another path, and what is below it if that is wished. -/
def copyOne (called : Text) (o : Options) (files : FileTree) (path target : Text) : Except Text FileTree := do
  let recursive := o.has 'r' || o.has 'R' || o.has 'a'
  let keepsLinks := recursive || o.has 'P' || o.has 'd'
  let found := if keepsLinks then files.locateEntry path else files.locate path
  let l ← found.mapError (refusal called "cannot stat" path)
  let put (files : FileTree) (m : Location) (e : FileEntry) : FileTree :=
    match e, files.entry? m with
    | .file _ bytes _, some (.file n _ _) => files.revise n fun _ => bytes
    | .file _ bytes executable, _ => files.putFile m bytes executable
    | e, _ => files.put m e
  match files.entry? l with
  | some .directory =>
    if !recursive then throw (called ++ ": -r not specified; omitting directory " ++ quoted path)
    let m ← (files.place (files.start target) ((target.splitOn '/').filter (· ≠ []))).mapError
      (refusal called "cannot create directory" target)
    if l.isPrefixOf m then throw (called ++ ": cannot copy a directory, " ++ quoted path ++ ", into itself, " ++ quoted target)
    let inside := files.entries.filter fun (k, _) => l.isPrefixOf k
    return inside.foldl (fun files (k, e) => put files (m ++ k.drop l.length) e) files
  | some e =>
    let names := target.splitOn '/'
    let goal : Except HostFault Location := do
      FileTree.checkPath target
      let inner := (names.reverse.dropWhile (· = [])).reverse
      let m ← files.place (files.start target) inner
      if inner.length < names.length ∧ !files.isDirectory m then throw HostFault.notADirectory
      files.followed FileTree.linkLimit m
    let m ← goal.mapError (refusal called "cannot create regular file" target)
    let isSame : Bool := match e, files.entry? m with
      | .file n _ _, some (.file k _ _) => n = k
      | _, _ => l = m
    if isSame then throw (called ++ ": " ++ quoted path ++ " and " ++ quoted target ++ " are the same file")
    else if files.isDirectory m then
      throw (called ++ ": cannot overwrite directory " ++ quoted target ++ " with non-directory")
    else if o.has 'n' ∧ (files.entry? m).isSome then return files
    else
      match files.entry? m, e with
      | some (.device .full), .file _ (_ :: _) _ =>
        throw (called ++ ": error writing " ++ quoted target ++ ": " ++ reason .noSpace)
      | some (.device _), _ => return files
      | _, .device _ => return files.putFile m [] false
      | _, e => return put files m e
  | none => throw (refusal called "cannot stat" path .noSuchFile)

def cp (around : Surroundings) (called : Text) (arguments : List Text) : Effect :=
  withOptions called transferForm arguments fun o =>
    transferring around called o (copyOne called o) fun a b => quoted a ++ " -> " ++ quoted b

/-- Gives what lies at a path another one, or makes a link to it. -/
def linkOne (called : Text) (o : Options) (files : FileTree) (path target : Text) : Except Text FileTree := do
  let failed (f : HostFault) : Text := called ++ ": failed to create " ++
    (if o.has 's' then "symbolic link " else "hard link ") ++ quoted target ++
    (if o.has 's' ∨ f = .fileExists then [] else " => ".toList ++ quoted path) ++ ": " ++ reason f
  let source ← if o.has 's' then pure (FileEntry.link path)
    else do
      let l ← (files.locateEntry path).mapError (refusal called "failed to access" path)
      match files.entry? l with
      | some .directory => throw (called ++ ": " ++ shown path ++ ": hard link not allowed for directory")
      | some e => pure e
      | none => throw (refusal called "failed to access" path .noSuchFile)
  let m ← (do FileTree.checkPath target; files.place (files.start target) (target.splitOn '/')).mapError failed
  if (files.entry? m).isSome ∧ !o.has 'f' then throw (failed .fileExists)
  return files.put m source

def ln (around : Surroundings) (called : Text) (arguments : List Text) : Effect :=
  withOptions called { transferForm with flags := "fnsTviLPrb".toList } arguments fun o =>
    let o := match o.operands, o.value? 't' with
      | [a], none => { o with operands := [a, ['.']] }
      | _, _ => o
    transferring around called o (linkOne called o) fun a b => quoted b ++ (if o.has 's' then " -> " else " => ") ++ quoted a

/-- Gives a file another path, without any option. -/
def linkAlone (around : Surroundings) (called : Text) (arguments : List Text) : Effect :=
  withOptions called {} arguments fun o =>
    match o.operands with
    | [] => misuse called "missing operand"
    | [a] => misuse called ("missing operand after " ++ quoted a)
    | [a, b] =>
      let refused (f : HostFault) : Effect :=
        .complaint 1 (called ++ ": cannot create link " ++ quoted b ++ " to " ++ quoted a ++ ": " ++ reason f)
      let made : Except HostFault FileTree := do
        let l ← around.files.locateEntry a
        FileTree.checkPath b
        let m ← around.files.place (around.files.start b) (b.splitOn '/')
        if (around.files.entry? m).isSome then throw .fileExists
        return around.files.put m ((around.files.entry? l).getD .directory)
      match made with
      | .ok files => { files := some files }
      | .error f => refused f
    | _ :: _ :: c :: _ => misuse called ("extra operand " ++ quoted c)

/-- Takes a path from a file, without any option. -/
def unlink (around : Surroundings) (called : Text) (arguments : List Text) : Effect :=
  withOptions called {} arguments fun o =>
    match o.operands with
    | [] => misuse called "missing operand"
    | [a] =>
      let refused (f : HostFault) : Effect := .complaint 1 (refusal called "cannot unlink" a f)
      match around.files.locateEntry a with
      | .error f => refused f
      | .ok l => if around.files.isDirectory l then refused .isADirectory else { files := some (around.files.remove l) }
    | _ :: b :: _ => misuse called ("extra operand " ++ quoted b)

/-- Writes the parts of a file to files of their own, named in order. -/
def split (around : Surroundings) (called : Text) (arguments : List Text) : Effect :=
  withOptions called
    { flags := "d".toList, valued := "lba".toList
      long := [("lines", 'l'), ("bytes", 'b'), ("suffix-length", 'a'), ("numeric-suffixes", 'd')].map fun (n, c) => (n.toList, c) }
    arguments fun o =>
    let source := o.operands.headD ['-']
    let front := (o.operands.drop 1).headD ['x']
    let byBytes := o.has 'b'
    let asked := if byBytes then o.value? 'b' else o.value? 'l'
    match (asked.getD "1000".toList), (amount? byBytes (asked.getD "1000".toList)).map Amount.size, read around source with
    | v, none, _ | v, some 0, _ =>
      .complaint 1 (called ++ ": invalid number of " ++ (if byBytes then "bytes: " else "lines: ") ++ quoted v)
    | _, _, .error f => .complaint 1 (called ++ ": cannot open " ++ quoted source ++ " for reading: " ++ reason f)
    | _, some size, .ok t =>
      let units := if byBytes then t.map fun c => [c] else Bytes.lines t
      let count := (units.length + size - 1) / size
      let width := ((o.value? 'a').bind natural?).getD 2
      let base := if o.has 'd' then 10 else 26
      let name (k : Nat) : Text :=
        front ++ ((List.range width).reverse.map fun p =>
          Char.ofNat ((if o.has 'd' then 48 else 97) + k / base ^ p % base))
      let e := changing around ((List.range count).map name) fun files path =>
        let k := ((List.range count).find? fun k => name k = path).getD 0
        let bytes := Bytes.ofText ((units.drop (k * size)).take size).flatten
        (((files.openFile path true false).bind fun (c, files) => files.write c bytes).map Prod.snd).mapError
          (refusal called "failed to create" path)
      { e with rest := usedInput [source] }

/-- Whether a file may be run once a mode has been given to it, if that is a mode. -/
def executable? (before : Bool) (mode : Text) : Option Bool :=
  if mode.head?.any Char.isDigit then
    if mode.all (fun c => '0' ≤ c && c ≤ '7') ∧ mode.length ≤ 5 then
      some ((mode.reverse.take 3).any fun c => c.toNat % 2 = 1)
    else none
  else
    (mode.splitOn ',').foldlM (fun (x : Bool) clause =>
      let who := clause.takeWhile ['u', 'g', 'o', 'a'].contains
      match clause.drop who.length with
      | sign :: bits =>
        if !(['+', '-', '='].contains sign) ∨ !bits.all ['r', 'w', 'x', 'X', 's', 't', 'u', 'g', 'o'].contains then none
        else
          let isAll := who = [] || who.contains 'a' || ['u', 'g', 'o'].all who.contains
          let names := bits.contains 'x' || bits.contains 'X' && x
          some (if sign = '+' then x || names
            else if sign = '-' then x && !(names && isAll)
            else if isAll then names else x || names)
      | [] => none) before

def chmod (around : Surroundings) (called : Text) (arguments : List Text) : Effect :=
  let isMode (a : Text) : Bool := match a with
    | '-' :: c :: _ => ['r', 'w', 'x', 'X', 's', 't'].contains c
    | _ => false
  let modes := arguments.filter isMode
  withOptions called { flags := "Rcfv".toList, long := [("recursive".toList, 'R')] } (arguments.filter (!isMode ·)) fun o =>
    let (mode, paths) := if modes = [] then (o.operands.headD [], o.operands.drop 1) else (modes.headD [], o.operands)
    if o.operands = [] ∧ modes = [] then misuse called "missing operand"
    else if paths = [] then misuse called ("missing operand after " ++ quoted mode)
    else if (executable? false mode).isNone then misuse called ("invalid mode: " ++ quoted mode)
    else
      changing around paths fun files path =>
        match files.locate path with
        | .error f => .error (refusal called "cannot access" path f)
        | .ok l =>
          let change (k : Location) (e : FileEntry) : FileEntry := match e with
            | .file n bytes x =>
              if k = l ∨ o.has 'R' ∧ l.isPrefixOf k then .file n bytes ((executable? x mode).getD x) else e
            | e => e
          .ok { files with entries := files.entries.map fun (k, e) => (k, change k e) }

def lsForm : OptionForm :=
  { flags := "1aAbBcCdfFgGhHiklLmnNopqQrRsStuUvxXZ".toList, valued := "ITw".toList
    long := [("all", 'a'), ("almost-all", 'A'), ("directory", 'd'), ("reverse", 'r'), ("recursive", 'R'),
      ("classify", 'F')].map fun (n, c) => (n.toList, c) }

/-- Lists directories and names of files. -/
def ls (around : Surroundings) (called : Text) (arguments : List Text) : Effect :=
  withOptions called lsForm arguments (fun o =>
    let files := around.files
    let ordered (ts : List Text) : List Text :=
      let ts := ts.mergeSort Text.inOrder
      if o.has 'r' then ts.reverse else ts
    let mark (l : Location) : Text := match files.entry? l with
      | some .directory => if o.has 'F' ∨ o.has 'p' then ['/'] else []
      | some (.link _) => if o.has 'F' then ['@'] else []
      | some (.file _ _ true) | some (.program _) => if o.has 'F' then ['*'] else []
      | _ => []
    let namesAt (l : Location) : List Text :=
      let names := (files.namesIn l).filter fun n => n.head? ≠ some '.' || o.has 'a' || o.has 'A'
      ordered (if o.has 'a' then ['.'] :: "..".toList :: names else names)
    let listing (l : Location) : Text := (namesAt l).flatMap fun n => n ++ mark (l ++ [n]) ++ ['\n']
    let rec directories (fuel : Nat) (l : Location) (path : Text) : List (Text × Location) :=
      match fuel with
      | 0 => []
      | fuel + 1 =>
        (path, l) :: if o.has 'R' then
            (namesAt l).flatMap fun (n : Text) =>
              if n ≠ "." ∧ n ≠ ".." ∧ files.isDirectory (l ++ [n]) then directories fuel (l ++ [n]) (below path n) else []
          else []
    let paths := ordered (if o.operands = [] then [['.']] else o.operands)
    let found : List (Text × Except HostFault Location) := paths.map fun p =>
      (p, match files.locate p with
        | .ok l => .ok l
        | .error _ => files.locateEntry p)
    let missing := found.filterMap fun (p, r) => match r with
      | .error f => some (refusal called "cannot access" p f)
      | .ok _ => none
    let here := found.filterMap fun (p, r) => r.toOption.map (p, ·)
    let isListed (l : Location) : Bool := files.isDirectory l && !o.has 'd'
    let plain := (here.filter fun (_, l) => !isListed l).flatMap fun (p, l) => p ++ mark l ++ ['\n']
    let listed := (here.filter fun (_, l) => isListed l).flatMap fun (p, l) => directories 64 l p
    let titled := paths.length > 1 || o.has 'R'
    let blocks := listed.map fun (p, l) => (if titled then p ++ ":\n" else []) ++ listing l
    let text := List.intercalate "\n" ((if plain = [] then [] else [plain]) ++ blocks)
    let errors := missing.foldl (fun (e : Effect) m => e.andThen (.complaint 2 m)) {}
    errors.andThen (.output (Utf8.encode text))) 2

/-- The whole path of a location. -/
def absolute (l : Location) : Text := '/' :: List.intercalate "/" l

def readlink (around : Surroundings) (called : Text) (arguments : List Text) : Effect :=
  withOptions called { flags := "efmnqsvz".toList, long := [("canonicalize".toList, 'f'), ("no-newline".toList, 'n')] } arguments fun o =>
    let files := around.files
    let ending : Text := if o.has 'n' then [] else ['\n']
    let one (path : Text) : Option Text :=
      if o.has 'f' ∨ o.has 'e' ∨ o.has 'm' then
        match files.locate path with
        | .ok l => some (absolute l)
        | .error _ =>
          if o.has 'e' then none
          else (files.place (files.start path) (FileTree.pathNames path)).toOption.map absolute
      else
        match files.locateEntry path with
        | .ok l => match files.entry? l with
          | some (.link p) => some p
          | _ => none
        | .error _ => none
    if o.operands = [] then misuse called "missing operand"
    else
      o.operands.foldl (fun (e : Effect) p => e.andThen (match one p with
        | some t => .output (Utf8.encode (t ++ ending))
        | none => { status := 1 })) {}

def realpath (around : Surroundings) (called : Text) (arguments : List Text) : Effect :=
  withOptions called { flags := "emLPqsz".toList } arguments fun o =>
    let files := around.files
    if o.operands = [] then misuse called "missing operand"
    else
      o.operands.foldl (fun (e : Effect) p =>
        let found : Except HostFault Location := match files.locate p with
          | .ok l => .ok l
          | .error f => if o.has 'e' then .error f else (do FileTree.checkPath p; files.place (files.start p) (FileTree.pathNames p))
        e.andThen (match found with
          | .ok l => .line (absolute l)
          | .error f => .complaint 1 (called ++ ": " ++ shown p ++ ": " ++ reason f))) {}

def basename (called : Text) (arguments : List Text) : Effect :=
  withOptions called
    { flags := "az".toList, valued := ['s'], long := [("multiple".toList, 'a'), ("suffix".toList, 's')], anywhere := false }
    arguments fun o =>
    let without (suffix t : Text) : Text :=
      if suffix ≠ [] ∧ suffix ≠ t ∧ suffix.reverse.isPrefixOf t.reverse then t.take (t.length - suffix.length) else t
    let several := o.has 'a' || o.has 's'
    match o.operands with
    | [] => misuse called "missing operand"
    | a :: rest =>
      if several then
        .output (Utf8.encode ((a :: rest).flatMap fun p => without ((o.value? 's').getD []) (pathPart true p) ++ ['\n']))
      else if rest.length > 1 then misuse called ("extra operand " ++ quoted (rest.getD 1 []))
      else .line (without (rest.headD []) (pathPart true a))

def dirname (called : Text) (arguments : List Text) : Effect :=
  withOptions called { flags := ['z'] } arguments fun o =>
    if o.operands = [] then misuse called "missing operand"
    else .output (Utf8.encode (o.operands.flatMap fun p => pathPart false p ++ ['\n']))

/-- Gives files another size. -/
def truncate (around : Surroundings) (called : Text) (arguments : List Text) : Effect :=
  withOptions called { flags := "co".toList, valued := "rs".toList, long := [("size".toList, 's'), ("no-create".toList, 'c')] }
    arguments fun o =>
    match o.value? 's' with
    | none => misuse called "you must specify either '--size' or '--reference'"
    | some v =>
      match amount? true v with
      | none => .complaint 1 (called ++ ": Invalid number: " ++ quoted v)
      | some a =>
        if o.operands = [] then misuse called "missing file operand"
        else
          changing around o.operands fun files path =>
            let change (old : List UInt8) : List UInt8 :=
              let size := if a.plus then old.length + a.size else if a.minus then old.length - a.size else a.size
              old.take size ++ List.replicate (size - old.length) 0
            match files.openFile path false false with
            | .ok (.file n _ _, files) => .ok (files.revise n change)
            | .ok (_, files) => .ok files
            | .error f => .error (called ++ ": cannot open " ++ quoted path ++ " for writing: " ++ reason f)

end SchemaDrift.Tool
