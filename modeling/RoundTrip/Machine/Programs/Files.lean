import RoundTrip.Discovery
import RoundTrip.Machine.Programs.Basic

/-!
# Programs that change files

The programs that copy, move, remove and make files and directories. A program works through its
arguments and goes on behind one that it fails for.
-/

namespace RoundTrip.Machine

/-- The node at a path; `follow` says whether a link at its end is followed. -/
def nodeAt (follow : Bool) (path : Chars) : Proc (Except Reason Node) :=
  Proc.see fun files => match files.landing follow (pathOf path) with
    | .ok (.found _ node) => .ok node
    | .ok (.vacant _ _) => .error (.errno .noEntry)
    | .error r => .error r

/-- Whether there is a directory at a path. -/
def isDirAt (path : Chars) : Proc Bool := Proc.see fun files => files.isDir (pathOf path)

/-- Whether two paths lead to the same place. -/
def areSame (follow : Bool) (a b : Chars) : Proc Bool :=
  Proc.see fun files =>
    match files.landing follow (pathOf a), files.landing follow (pathOf b) with
    | .ok (.found x _), .ok (.found y _) => x == y
    | _, _ => false

/-- Whether the place of a path is inside that of another. -/
def isInside (outer inner : Chars) : Proc Bool :=
  Proc.see fun files =>
    match files.landing true (pathOf outer), files.landing true (pathOf inner) with
    | .ok (.found x _), .ok (.found y _) => x.isPrefixOf y
    | .ok (.found x _), .ok (.vacant y _) => x.isPrefixOf y
    | _, _ => false

/-- How deeply directories may nest. -/
def depthLimit : Nat := 1000

/-! ## Copies and moves -/

/-- Where the operands of `cp` and `mv` go. -/
inductive Aim where
  /-- To a path. -/
  | path (source target : Chars)
  /-- Into a directory. -/
  | dir (sources : List Chars) (target : Chars)

/-- Finds out where the operands go, and goes on with that. -/
def aimed (c : Call) (w : Words) (go : Aim → Proc Nat) : Proc Nat :=
  match w.last? 't', w.rest.reverse with
  | _, [] => c.misused 1 "missing file operand".toList
  | some dir, _ => do
    if ← isDirAt dir then go (.dir w.rest dir)
    else
      match ← nodeAt true dir with
      | .ok _ => c.failed ("target directory ".toList ++ quoted dir) (.errno .notDirectory)
      | .error r => c.failed ("target directory ".toList ++ quoted dir) r
  | none, [only] =>
    c.misused 1 ("missing destination file operand after ".toList ++ quoted only)
  | none, target :: source :: more => do
    if w.has 'T' then
      match more with
      | [] => go (.path source target)
      | _ => c.misused 1 ("extra operand ".toList ++ quoted target)
    else if ← isDirAt target then go (.dir (source :: more).reverse target)
    else
      match more with
      | [] => go (.path source target)
      | _ =>
        match ← nodeAt true target with
        | .ok _ => c.failed ("target ".toList ++ quoted target) (.errno .notDirectory)
        | .error r => c.failed ("target ".toList ++ quoted target) r

/-- Does something for each pair of a source and its target. -/
def Aim.forEachPair (a : Aim) (f : Chars → Chars → Proc Nat) : Proc Nat :=
  match a with
  | .path source target => f source target
  | .dir sources target => forEach sources fun w => f w (inside target (baseName w))

/-- How `cp` copies. -/
structure CopyStyle where
  /-- Whether directories are copied with what they hold. -/
  deep : Bool
  /-- Whether links are copied as links. -/
  links : Bool
  /-- Whether what is done is said. -/
  verbose : Bool
  /-- Whether permissions are kept as they are. -/
  exact : Bool
  /-- Whether files that exist are left alone. -/
  careful : Bool

/-- Writes a copy of a file. -/
def copyContent (c : Call) (s : CopyStyle) (content : Bytes) (mode : Nat) (target : Chars) :
    Proc Nat := do
  let mask : Nat ← Proc.ask (.mask none)
  let fresh := match ← nodeAt true target with
    | .ok _ => false
    | .error _ => true
  let own := if s.exact then mode else mode - (mode &&& mask)
  match ← Proc.attempt fun files => files.updateAs own (pathOf target) fun _ => content with
  | .ok () =>
    if s.exact && !fresh then
      let _ ← Proc.attempt fun files => files.setMode (pathOf target) mode
    return 0
  | .error r =>
    let r := if r = .errno .isDirectory ∧ target.getLast? = some '/' then .errno .notDirectory
      else r
    c.failed ("cannot create regular file ".toList ++ quoted target) r

/-- Copies what is at a path to another; directories nest at most `depth` deep. -/
def copyTo (c : Call) (s : CopyStyle) : Nat → Chars → Chars → Proc Nat
  | 0, _, _ => return 1
  | depth + 1, source, target => do
    let follow := !s.links
    let said : Proc Unit :=
      if s.verbose then Proc.say (quoted source ++ " -> ".toList ++ quoted target ++ ['\n'])
      else pure ()
    match ← nodeAt follow source with
    | .error r => c.failed ("cannot stat ".toList ++ quoted source) r
    | .ok node =>
      if node.isDir && !s.deep then
        c.fails ("-r not specified; omitting directory ".toList ++ quoted source)
      else
        let there ← nodeAt true target
        let known ← nodeAt false target
        match there with
        | .ok other =>
          if ← areSame follow source target then
            c.fails (quoted source ++ " and ".toList ++ quoted target
              ++ " are the same file".toList)
          else if node.isDir && !other.isDir then
            c.fails ("cannot overwrite non-directory ".toList ++ quoted target
              ++ " with directory ".toList ++ quoted source)
          else if other.isDir && !node.isDir then
            c.fails ("cannot overwrite directory ".toList ++ quoted target
              ++ " with non-directory".toList)
          else if s.careful && !node.isDir then return 0
          else copyNode depth said node known.toOption source target
        | .error (.errno .noEntry) => copyNode depth said node known.toOption source target
        | .error r => c.failed ("cannot stat ".toList ++ quoted target) r
where
  /-- Copies a node. -/
  copyNode (depth : Nat) (said : Proc Unit) (node : Node) (there : Option Node)
      (source target : Chars) : Proc Nat :=
    match node with
    | .dir entries => do
      if ← isInside source target then
        c.fails ("cannot copy a directory, ".toList ++ quoted source ++ ", into itself, ".toList
          ++ quoted target)
      else
        let made ← match there with
          | some _ => pure (.ok ())
          | none => Proc.attempt fun files => files.makeDir (pathOf target)
        match made with
        | .error r => c.failed ("cannot create directory ".toList ++ quoted target) r
        | .ok () =>
          if there.isNone then said
          forEach (entries.map fun e => charsOf e.1) fun name =>
            copyTo c s depth (inside source name) (inside target name)
    | .link aim => do
      said
      if there.isSome then
        let _ ← Proc.attempt fun files => files.remove (pathOf target)
      match ← Proc.attempt fun files => files.makeLink (pathOf target) aim with
      | .ok () => return 0
      | .error r => c.failed ("cannot create symbolic link ".toList ++ quoted target) r
    | .null => do
      said
      copyContent c s [] 0o666 target
    | .file content mode => do
      said
      match there with
      | some (.link _) =>
        match ← nodeAt true target with
        | .error _ =>
          c.fails ("not writing through dangling symlink ".toList ++ quoted target)
        | .ok _ => copyContent c s content mode target
      | _ => copyContent c s content mode target

/-- The options of `cp`. -/
def cpOptions : Options where
  plain := "adfHilLnpPrRsTuvx"
  valued := "St"
  long := [("archive", 'a'), ("force", 'f'), ("interactive", 'i'), ("link", 'l'),
    ("dereference", 'L'), ("no-clobber", 'n'), ("no-dereference", 'P'), ("preserve", 'p'),
    ("recursive", 'r'), ("symbolic-link", 's'), ("no-target-directory", 'T'),
    ("target-directory", 't'), ("update", 'u'), ("verbose", 'v')]

/-- `cp`: copies a file to a path or files into a directory. -/
def cp (c : Call) : Proc Nat :=
  c.withOptions 1 cpOptions fun w => do
    let deep := w.has 'r' || w.has 'R' || w.has 'a'
    let links := match w.lastOf? ['L', 'P', 'd', 'a'] with
      | some 'L' => false
      | some _ => true
      | none => deep
    let s : CopyStyle :=
      { deep, links, verbose := w.has 'v', exact := w.has 'p' || w.has 'a', careful := w.has 'n' }
    if w.has 'n' then
      c.complain ("warning: behavior of -n is non-portable and may change in future; "
        ++ "use --update=none instead").toList
    aimed c w fun a => a.forEachPair (copyTo c s depthLimit)

/-- Moves what is at a path to another. -/
def moveTo (c : Call) (w : Words) (source target : Chars) : Proc Nat := do
  match ← nodeAt false source with
  | .error r => c.failed ("cannot stat ".toList ++ quoted source) r
  | .ok node =>
    let there ← nodeAt false target
    if node.isDir && (← isInside source target) then
      if ← areSame false source target then
        c.fails (quoted source ++ " and ".toList ++ quoted target ++ " are the same file".toList)
      else
        c.fails ("cannot move ".toList ++ quoted source ++ " to a subdirectory of itself, ".toList
          ++ quoted target)
    else if ← areSame false source target then
      c.fails (quoted source ++ " and ".toList ++ quoted target ++ " are the same file".toList)
    else
      match there with
      | .ok other =>
        if w.has 'n' then return 0
        else if node.isDir && !other.isDir then
          c.fails ("cannot overwrite non-directory ".toList ++ quoted target
            ++ " with directory ".toList ++ quoted source)
        else if other.isDir && !node.isDir then
          c.fails ("cannot overwrite directory ".toList ++ quoted target
            ++ " with non-directory".toList)
        else if other.isDir && !other.entries.isEmpty then
          c.failed ("cannot overwrite ".toList ++ quoted target) (.errno .directoryNotEmpty)
        else move node
      | .error _ => move node
where
  /-- Puts a node in the place of the target. -/
  move (node : Node) : Proc Nat := do
    let moved ← Proc.attempt fun files =>
      match files.landing false (pathOf source), files.landing false (pathOf target) with
      | .ok (.found from_ _), .ok landing =>
        let goal := match landing with
          | .found place _ => place
          | .vacant dir name => dir ++ [name]
        let files := { files with root := Node.remove from_ files.root }
        .ok (files.put goal node)
      | .error r, _ | _, .error r => .error r
      | _, _ => .error (.errno .noEntry)
    match moved with
    | .ok () =>
      if w.has 'v' then
        Proc.say ("renamed ".toList ++ quoted source ++ " -> ".toList ++ quoted target ++ ['\n'])
      return 0
    | .error r =>
      c.failed ("cannot move ".toList ++ quoted source ++ " to ".toList ++ quoted target) r

/-- The options of `mv`. -/
def mvOptions : Options where
  plain := "finTuv"
  valued := "St"
  long := [("force", 'f'), ("interactive", 'i'), ("no-clobber", 'n'),
    ("no-target-directory", 'T'), ("target-directory", 't'), ("update", 'u'), ("verbose", 'v')]

/-- `mv`: moves a file to a path or files into a directory. -/
def mv (c : Call) : Proc Nat :=
  c.withOptions 1 mvOptions fun w => aimed c w fun a => a.forEachPair (moveTo c w)

/-! ## Removals -/

/-- Removes what is at a path, with what it holds; directories nest at most `depth` deep. -/
def removeAll (c : Call) (verbose : Bool) : Nat → Chars → Proc Nat
  | 0, _ => return 1
  | depth + 1, path => do
    match ← nodeAt false path with
    | .error r => c.failed ("cannot remove ".toList ++ quoted path) r
    | .ok node =>
      let status ← forEach (node.entries.map fun e => charsOf e.1) fun name =>
        removeAll c verbose depth (inside path name)
      match ← Proc.attempt fun files => files.remove (pathOf path) with
      | .error r => c.failed ("cannot remove ".toList ++ quoted path) r
      | .ok () =>
        if verbose then
          Proc.say ((if node.isDir then "removed directory " else "removed ").toList
            ++ quoted path ++ ['\n'])
        return status

/-- The options of `rm`. -/
def rmOptions : Options where
  plain := "dfiIrRv"
  long := [("dir", 'd'), ("force", 'f'), ("interactive", 'i'), ("one-file-system", 'd'),
    ("recursive", 'r'), ("verbose", 'v')]

/-- `rm`: removes files, and directories if it is asked to. -/
def rm (c : Call) : Proc Nat :=
  c.withOptions 1 rmOptions fun w => do
    let force := w.lastOf? ['f', 'i'] == some 'f'
    let deep := w.has 'r' || w.has 'R'
    if w.rest.isEmpty then
      if force then return 0 else c.misused 1 "missing operand".toList
    else
      forEach w.rest fun path => do
        let last := baseName path
        if deep && (last == ['.'] || last == ['.', '.']) then
          c.fails ("refusing to remove '.' or '..' directory: skipping ".toList ++ quoted path)
        else if deep && last == ['/'] then
          c.complain ("it is dangerous to operate recursively on ".toList ++ quoted path)
          c.fails "use --no-preserve-root to override this failsafe".toList
        else
          let refused (r : Reason) : Proc Nat :=
            c.failed ("cannot remove ".toList ++ quoted path) r
          match ← nodeAt false path with
          | .error r =>
            if force && (r = .errno .noEntry || r = .errno .notDirectory) then return 0
            else refused r
          | .ok node =>
            if node.isDir && !deep then
              if !w.has 'd' then refused (.errno .isDirectory)
              else if node.entries.isEmpty then removeAll c (w.has 'v') 1 path
              else refused (.errno .directoryNotEmpty)
            else removeAll c (w.has 'v') depthLimit path

/-- The paths of a directory and those above it that a relative or absolute path names, the
longest first. -/
def pathsAbove (path : Chars) : List Chars :=
  let pieces := (path.splitOn '/').filter (!·.isEmpty)
  let front : Chars := if path.head? = some '/' then ['/'] else []
  (List.range pieces.length).map fun i =>
    front ++ ['/'].intercalate (pieces.take (pieces.length - i))

/-- Removes an empty directory. -/
def removeDir (c : Call) (w : Words) (path : Chars) : Proc Nat := do
  let refused (r : Reason) : Proc Nat :=
    if w.has 'i' && r = .errno .directoryNotEmpty then pure 0
    else c.failed ("failed to remove ".toList ++ quoted path) r
  if w.has 'v' then Proc.say (c.name ++ ": removing directory, ".toList ++ quoted path ++ ['\n'])
  match ← nodeAt false path with
  | .ok (.dir []) =>
    match ← Proc.attempt fun files => files.remove (pathOf path) with
    | .ok () => return 0
    | .error r => refused r
  | .ok (.dir _) => refused (.errno .directoryNotEmpty)
  | .ok _ => refused (.errno .notDirectory)
  | .error r => refused r

/-- The options of `rmdir`. -/
def rmdirOptions : Options where
  plain := "pv"
  long := [("ignore-fail-on-non-empty", 'i'), ("parents", 'p'), ("verbose", 'v')]

/-- `rmdir`: removes empty directories. -/
def rmdir (c : Call) : Proc Nat :=
  c.withOptions 1 rmdirOptions fun w => do
    if w.rest.isEmpty then c.misused 1 "missing operand".toList
    else
      forEach w.rest fun path =>
        let paths := if w.has 'p' then pathsAbove path else [path]
        paths.foldlM (fun (status : Nat) path => do
          if status = 0 then removeDir c w path else return status) 0

/-! ## Making files -/

/-- The options of `mkdir`. -/
def mkdirOptions : Options where
  plain := "pv"
  valued := "m"
  long := [("mode", 'm'), ("parents", 'p'), ("verbose", 'v')]

/-- Makes a directory. -/
def makeOne (c : Call) (w : Words) (path : Chars) : Proc Nat := do
  match ← Proc.attempt fun files => files.makeDir (pathOf path) with
  | .ok () =>
    if w.has 'v' then
      Proc.say (c.name ++ ": created directory ".toList ++ quoted path ++ ['\n'])
    return 0
  | .error r =>
    if w.has 'p' && (← isDirAt path) then return 0
    else c.failed ("cannot create directory ".toList ++ cited path) r

/-- `mkdir`: makes directories, with those above them if it is asked to. -/
def mkdir (c : Call) : Proc Nat :=
  c.withOptions 1 mkdirOptions fun w => do
    if w.rest.isEmpty then c.misused 1 "missing operand".toList
    else
      forEach w.rest fun path =>
        let paths := if w.has 'p' && !path.isEmpty then (pathsAbove path).reverse else [path]
        paths.foldlM (fun (status : Nat) path => do
          if status = 0 then makeOne c w path else return status) 0

/-- The options of `touch`. -/
def touchOptions : Options where
  plain := "acfhm"
  valued := "drt"
  long := [("no-create", 'c'), ("date", 'd'), ("reference", 'r'), ("no-dereference", 'h')]

/-- `touch`: makes files that do not exist. -/
def touch (c : Call) : Proc Nat :=
  c.withOptions 1 touchOptions fun w => do
    if w.rest.isEmpty then c.misused 1 "missing file operand".toList
    else
      forEach w.rest fun path => do
        match ← nodeAt true path with
        | .ok _ => return 0
        | .error r =>
          if w.has 'c' then
            if r = .errno .noEntry then return 0
            else c.failed ("cannot touch ".toList ++ quoted path) r
          else
            let mask : Nat ← Proc.ask (.mask none)
            match ← Proc.attempt fun files =>
                files.updateAs (0o666 - (0o666 &&& mask)) (pathOf path) id with
            | .ok () => return 0
            | .error r => c.failed ("cannot touch ".toList ++ quoted path) r

/-! ## Permissions -/

/-- The bits of the permissions of some users. -/
def usersBits (users : Chars) : Nat :=
  let has (u : Char) : Bool := users.isEmpty || users.contains u || users.contains 'a'
  (if has 'u' then 0o4700 else 0) ||| (if has 'g' then 0o2070 else 0)
    ||| (if has 'o' then 0o1007 else 0)

/-- The bits of some permissions of a file that has others. -/
def grantBits (old : Nat) (isDir : Bool) (grants : Chars) : Nat :=
  grants.foldl (fun bits g => bits ||| match g with
    | 'r' => 0o444
    | 'w' => 0o222
    | 'x' => 0o111
    | 'X' => if isDir || old &&& 0o111 != 0 then 0o111 else 0
    | 's' => 0o6000
    | 't' => 0o1000
    | 'u' => let own := old >>> 6 &&& 7; own <<< 6 ||| own <<< 3 ||| own
    | 'g' => let own := old >>> 3 &&& 7; own <<< 6 ||| own <<< 3 ||| own
    | _ => let own := old &&& 7; own <<< 6 ||| own <<< 3 ||| own) 0

/-- The permissions behind the actions of a clause such as `+x` or `=r-w`, of at most `fuel`. -/
def applyActions (users : Chars) (mask : Nat) (isDir : Bool) : Nat → Nat → Chars → Option Nat
  | 0, _, _ => none
  | _ + 1, mode, [] => some mode
  | fuel + 1, mode, op :: rest =>
    if op ∈ ['+', '-', '='] then
      let grants := rest.takeWhile fun c => c ∈ ['r', 'w', 'x', 'X', 's', 't', 'u', 'g', 'o']
      let own := usersBits users
      let bits := grantBits mode isDir grants &&& own
      let bits := if users.isEmpty then bits - (bits &&& mask) else bits
      let mode := match op with
        | '+' => mode ||| bits
        | '-' => mode - (mode &&& bits)
        | _ => (mode - (mode &&& own)) ||| bits
      applyActions users mask isDir fuel mode (rest.drop grants.length)
    else none

/-- The permissions that a word asks for, of a file that has others. -/
def modeOf? (word : Chars) (mask old : Nat) (isDir : Bool) : Option Nat :=
  if !word.isEmpty && word.all isOctal then
    let mode := digitsValue 8 word
    if mode ≤ 0o7777 then some mode else none
  else
    (word.splitOn ',').foldlM (fun mode clause =>
      let users := clause.takeWhile fun c => c ∈ ['u', 'g', 'o', 'a']
      let actions := clause.drop users.length
      if actions.isEmpty then none
      else applyActions users mask isDir (actions.length + 1) mode actions) old

/-- Permissions as letters. -/
def modeLetters (mode : Nat) : Chars :=
  [(0o400, 'r'), (0o200, 'w'), (0o100, 'x'), (0o40, 'r'), (0o20, 'w'), (0o10, 'x'), (0o4, 'r'),
    (0o2, 'w'), (0o1, 'x')].map fun (bit, letter) => if mode &&& bit != 0 then letter else '-'

/-- Permissions as four octal digits. -/
def modeDigits (mode : Nat) : Chars :=
  let digits := Nat.toDigits 8 mode
  List.replicate (4 - digits.length) '0' ++ digits

/-- Changes the permissions at a path, and of what it holds if `deep`; directories nest at most
`depth` deep. -/
def changeMode (c : Call) (w : Words) (word : Chars) : Nat → Chars → Proc Nat
  | 0, _ => return 1
  | depth + 1, path => do
    let mask : Nat ← Proc.ask (.mask none)
    match ← nodeAt true path with
    | .error r =>
      if w.has 'f' then return 1 else c.failed ("cannot access ".toList ++ quoted path) r
    | .ok node =>
      match node with
      | .file _ old =>
        let mode := (modeOf? word mask old false).getD old
        let _ ← Proc.attempt fun files => files.setMode (pathOf path) mode
        let shown (mode : Nat) : Chars := modeDigits mode ++ " (".toList ++ modeLetters mode ++ [')']
        if mode != old && (w.has 'v' || w.has 'c') then
          Proc.say ("mode of ".toList ++ quoted path ++ " changed from ".toList ++ shown old
            ++ " to ".toList ++ shown mode ++ ['\n'])
        else if w.has 'v' then
          Proc.say ("mode of ".toList ++ quoted path ++ " retained as ".toList ++ shown old
            ++ ['\n'])
      | _ => pure ()
      if w.has 'R' then
        forEach (node.entries.map fun e => charsOf e.1) fun name =>
          changeMode c w word depth (inside path name)
      else return 0

/-- The options of `chmod`. -/
def chmodOptions : Options where
  plain := "cfRv"
  long := [("changes", 'c'), ("silent", 'f'), ("quiet", 'f'), ("recursive", 'R'), ("verbose", 'v')]

/-- `chmod`: changes the permissions of files. -/
def chmod (c : Call) : Proc Nat :=
  let takesAway (word : Chars) : Bool := match word with
    | '-' :: d :: _ => d ∈ ['r', 'w', 'x', 'X', 's', 't', 'u', 'g', 'o']
    | _ => false
  let guarded : List Chars := match c.args with
    | word :: rest => if takesAway word then ['-', '-'] :: word :: rest else c.args
    | [] => []
  { c with args := guarded }.withOptions 1 chmodOptions fun w => do
    match w.rest with
    | [] => c.misused 1 "missing operand".toList
    | [word] => c.misused 1 ("missing operand after ".toList ++ cited word)
    | word :: paths =>
      if (modeOf? word 0 0 false).isNone then
        c.misused 1 ("invalid mode: ".toList ++ cited word)
      else forEach paths (changeMode c w word depthLimit)

/-! ## Links and lists -/

/-- The options of `ln`. -/
def lnOptions : Options where
  plain := "bfinsTvPLr"
  valued := "t"
  long := [("force", 'f'), ("no-dereference", 'n'), ("symbolic", 's'),
    ("no-target-directory", 'T'), ("target-directory", 't'), ("verbose", 'v')]

/-- Makes a link at a path, a symbolic one or a copy of a file. -/
def makeLinkTo (c : Call) (w : Words) (source target : Chars) : Proc Nat := do
  let label := if w.has 's' then "failed to create symbolic link " else "failed to create hard link "
  if w.has 'f' then
    match ← nodeAt false target with
    | .ok node =>
      if !node.isDir then
        let _ ← Proc.attempt fun files => files.remove (pathOf target)
    | .error _ => pure ()
  let made ←
    if w.has 's' then
      Proc.attempt fun files => files.makeLink (pathOf target) (pathOf source)
    else
      Proc.attempt fun files =>
        match files.landing false (pathOf source), files.landing false (pathOf target) with
        | .ok (.found _ node), .ok (.vacant dir name) => .ok (files.put (dir ++ [name]) node)
        | .ok (.found _ _), .ok (.found _ _) => .error (.errno .fileExists)
        | .error r, _ | _, .error r => .error r
        | _, _ => .error (.errno .noEntry)
  match made with
  | .ok () =>
    if w.has 'v' then
      Proc.say (quoted target ++ (if w.has 's' then " -> " else " => ").toList ++ quoted source
        ++ ['\n'])
    return 0
  | .error r => c.failed (label.toList ++ quoted target) r

/-- `ln`: makes links. -/
def ln (c : Call) : Proc Nat :=
  c.withOptions 1 lnOptions fun w => do
    let link (source target : Chars) : Proc Nat := do
      if w.has 's' then makeLinkTo c w source target
      else
        match ← nodeAt false source with
        | .error r => c.failed ("failed to access ".toList ++ quoted source) r
        | .ok (.dir _) => c.fails (source ++ ": hard link not allowed for directory".toList)
        | .ok _ => makeLinkTo c w source target
    match w.rest.reverse with
    | [] => c.misused 1 "missing file operand".toList
    | [only] => link only (baseName only)
    | target :: source :: more =>
      let linkName ← nodeAt false target
      let isLink := match linkName with
        | .ok (.link _) => w.has 'n'
        | _ => false
      if (← isDirAt target) && !isLink && !w.has 'T' then
        forEach (source :: more).reverse fun s => link s (inside target (baseName s))
      else if more.isEmpty then link source target
      else
        match linkName with
        | .ok _ => c.failed ("target ".toList ++ quoted target) (.errno .notDirectory)
        | .error r => c.failed ("target ".toList ++ quoted target) r

/-- The options of `ls`. -/
def lsOptions : Options where
  plain := "1aAdfFpRrtUClx"
  long := [("all", 'a'), ("almost-all", 'A'), ("directory", 'd'), ("recursive", 'R'),
    ("reverse", 'r')]

/-- The names of a directory that are listed. -/
def listed (w : Words) (entries : List (Name × Node)) : List Chars :=
  let names := ((entries.map fun e => e.1).mergeSort Name.le).map charsOf
  let all := w.has 'a' || w.has 'f'
  let visible := if all || w.has 'A' then names else names.filter fun n => n.head? != some '.'
  let visible := if all then ['.'] :: ['.', '.'] :: visible else visible
  if w.has 'r' then visible.reverse else visible

/-- `ls`: prints the names of the entries of directories, in order. -/
def ls (c : Call) : Proc Nat :=
  c.withOptions 2 lsOptions fun w => do
    let words := if w.rest.isEmpty then [['.']] else w.rest
    let (status, found) ← words.foldlM
      (fun ((status, found) : Nat × List (Chars × Node)) word => do
        match ← nodeAt true word with
        | .ok node => return (status, found ++ [(word, node)])
        | .error r =>
          match ← nodeAt false word with
          | .ok node => return (status, found ++ [(word, node)])
          | .error _ =>
            c.complain ("cannot access ".toList ++ quoted word ++ ": ".toList ++ reasonPhrase r)
            return (2, found)) (0, [])
    let sorted := found.mergeSort fun a b => Name.le (bytesOf a.1) (bytesOf b.1)
    let isShownItself (e : Chars × Node) : Bool := w.has 'd' || !e.2.isDir
    let single := sorted.filter isShownItself
    let dirs := sorted.filter fun e => !isShownItself e
    single.forM fun e => Proc.say (e.1 ++ ['\n'])
    dirs.zipIdx.forM fun (e, i) => do
      if 0 < i || !single.isEmpty then Proc.say ['\n']
      if 1 < words.length then Proc.say (e.1 ++ [':', '\n'])
      (listed w e.2.entries).forM fun name => Proc.say (name ++ ['\n'])
    return status

end RoundTrip.Machine
