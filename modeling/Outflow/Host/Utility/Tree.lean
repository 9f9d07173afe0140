import Outflow.Host.Mode
import Outflow.Host.Utility.Basic
import Outflow.Shell.Pattern

/-!
# Programs that look at files and change them

Listing, making, copying, moving and removing files, and what their names and their permission
bits are.
-/

namespace Outflow.Utility

/-! ### Names -/

/-- A name without an ending. -/
def dropEnding (ending name : String) : String :=
  if ending ≠ name && ending.toList.isSuffixOf name.toList then
    String.ofList (name.toList.take (name.length - ending.length))
  else name

/-- Write the last names of paths. -/
def basename (o : Occasion) : Effect :=
  match Grammar.read ⟨"as:z".toList, [("multiple", 'a'), ("suffix", 's'), ("zero", 'z')], false⟩
      o.args with
  | .error message => misuse o 1 message
  | .ok flags =>
    match flags.operands with
    | [] => misuse o 1 "missing operand"
    | path :: rest =>
      if flags.has 'a' || flags.has 's' then
        let ending := (flags.value? 's').getD ""
        printLines o ((path :: rest).map fun p => dropEnding ending (lastName p))
      else
        match rest with
        | _ :: extra :: _ => misuse o 1 s!"extra operand {quoted extra}"
        | rest => printLines o [dropEnding (rest.headD "") (lastName path)]

/-- A path without its last name. -/
def parentName (path : String) : String :=
  let names := (Files.names path).reverse.dropWhile (· = "")
  let parent := ((names.drop 1).dropWhile (· = "")).reverse
  let root := path.toList.head? == some '/'
  if parent.isEmpty then (if root then "/" else ".") else "/".intercalate parent

/-- Write paths without their last names. -/
def dirname (o : Occasion) : Effect :=
  withFlags o 1 "z" [] fun flags =>
    match flags.operands with
    | [] => misuse o 1 "missing operand"
    | paths => printLines o (paths.map parentName)

/-- Write the working directory. -/
def pwd (o : Occasion) : Effect :=
  withFlags o 1 "LP" [("logical", 'L'), ("physical", 'P')] fun flags =>
    finish o 0
      ((if flags.operands.isEmpty then [] else [grumble o "ignoring non-option arguments"]) ++
        [.out (.ofRaw (pathText o.dir ++ "\n"))])

/-! ### Where paths lead -/

/-- Write where links lead. -/
def readlink (o : Occasion) : Effect :=
  withFlags o 1 "femnqsvz" [("canonicalize", 'f'), ("no-newline", 'n')] fun flags =>
    let canonical := flags.has 'f' || flags.has 'e' || flags.has 'm'
    match flags.operands with
    | [] => misuse o 1 "missing operand"
    | paths =>
      let text (path : String) : Option String :=
        if canonical then
          let found := if flags.has 'e' then o.files.resolve o.dir path
            else o.files.resolveNew o.dir path
          found.toOption.map pathText
        else
          match o.files.resolveEntry o.dir path with
          | .ok found =>
            match o.files.node? found with
            | some (.link target) => some target
            | _ => none
          | .error _ => none
      let texts := paths.map text
      let ending := if flags.has 'n' && paths.length = 1 then "" else "\n"
      finish o (if texts.all (·.isSome) then 0 else 1)
        [.out (.ofRaw (String.join (texts.filterMap fun t => t.map (· ++ ending))))]

/-- Write paths without links and detours. -/
def realpath (o : Occasion) : Effect :=
  withFlags o 1 "emqsz" [("canonicalize-existing", 'e'), ("canonicalize-missing", 'm')] fun flags =>
    match flags.operands with
    | [] => misuse o 1 "missing operand"
    | paths =>
      change o paths fun files path =>
        let found := if flags.has 'e' then files.resolve o.dir path
          else files.resolveNew o.dir path
        match found with
        | .ok place => .ok (files, [.out (.ofRaw (pathText place ++ "\n"))])
        | .error e => .error (fileFault path e)

/-! ### Making -/

/-- Make files that do not exist. -/
def touch (o : Occasion) : Effect :=
  withFlags o 1 "acd:fhmr:t:" [("no-create", 'c'), ("date", 'd'), ("reference", 'r')] fun flags =>
    match flags.operands with
    | [] => misuse o 1 "missing file operand"
    | paths =>
      change o paths fun files path =>
        match files.resolveNew o.dir path with
        | .ok found =>
          if (files.node? found).isSome || flags.has 'c' then .ok (files, [])
          else if path.toList.getLast? = some '/' then
            .error s!"setting times of {shellQuoted path}: No such file or directory"
          else .ok (files.put found (.file [] (newMode o)), [])
        | .error e =>
          if flags.has 'c' && e = .noSuchFile then .ok (files, [])
          else
            let isName := path.toList.getLast? = some '/'
            let action := if isName then "setting times of" else "cannot touch"
            .error s!"{action} {shellQuoted path}: {errorText e}"

/-- A path without slashes at its end. -/
def trimSlashes (path : String) : String :=
  match (path.toList.reverse.dropWhile (· = '/')).reverse with
  | [] => path
  | cs => String.ofList cs

/-- Make a directory with some permission bits, and those on the way to it.  The answer has the
directories that were made, as paths. -/
def makeParents (mode : Nat) (files : Files) (start : List String) (path : String) :
    List String → Except IoError (Files × List String)
  | [] => .ok (files, [])
  | name :: rest =>
    let path := if path = "" then name else if path = "/" then path ++ name else path ++ "/" ++ name
    let path := if path = "" then "/" else path
    match files.walk Files.maxLinks true start [name] with
    | .ok place =>
      if files.isDirectory place then makeParents mode files place path rest
      else .error (.os (if rest.isEmpty then 17 else 20))
    | .error e =>
      if e = .noSuchFile then
        (makeParents mode (files.put (start ++ [name]) (.directory mode)) (start ++ [name]) path
          rest).map fun (files, made) => (files, path :: made)
      else .error e

/-- Make directories. -/
def mkdir (o : Occasion) : Effect :=
  withFlags o 1 "pm:v" [("parents", 'p'), ("mode", 'm'), ("verbose", 'v')] fun flags =>
    let mode? := match flags.value? 'm' with
      | none => some (newDirMode o)
      | some text => Mode.changed? o.umask true 0o777 text
    match flags.operands, mode? with
    | [], _ => misuse o 1 "missing operand"
    | _, none => complain o 1 ("invalid mode " ++ quoted ((flags.value? 'm').getD ""))
    | paths, some mode =>
      change o paths fun files path =>
        let fault (e : IoError) : Except String (Files × List Piece) :=
          .error s!"cannot create directory {shellQuoted path}: {errorText e}"
        let said (path : String) : List Piece :=
          if flags.has 'v' then [.out (.ofRaw s!"{o.name}: created directory {shellQuoted path}\n")]
          else []
        if flags.has 'p' then
          if path = "" then fault .noSuchFile
          else
            let start := if Files.isAbsolute path then [] else o.dir
            match makeParents (newDirMode o) files start "" (Files.names path) with
            | .ok (after, made) =>
              let after := match after.resolve o.dir path with
                | .ok found => if made.isEmpty then after else after.put found (.directory mode)
                | .error _ => after
              .ok (after, made.flatMap said)
            | .error e => fault e
        else
          match files.resolveNew o.dir (trimSlashes path) with
          | .ok found =>
            if (files.node? found).isSome then fault (.os 17)
            else .ok (files.put found (.directory mode), said path)
          | .error e => fault e

/-- Make pipes with names. -/
def mkfifo (o : Occasion) : Effect :=
  withFlags o 1 "m:Z" [("mode", 'm')] fun flags =>
    let mode? := match flags.value? 'm' with
      | none => some (newMode o)
      | some text => Mode.changed? o.umask false 0o666 text
    match flags.operands, mode? with
    | [], _ => misuse o 1 "missing operand"
    | _, none => complain o 1 "invalid mode"
    | paths, some mode =>
      change o paths fun files path =>
        let fault (e : IoError) : Except String (Files × List Piece) :=
          .error s!"cannot create fifo {shellQuoted path}: {errorText e}"
        match files.resolveNew o.dir path with
        | .ok found =>
          if (files.node? found).isSome then fault (.os 17)
          else .ok (files.put found (.fifo mode), [])
        | .error e => fault e

/-- Make links. -/
def ln (o : Occasion) : Effect :=
  withFlags o 1 "sfnvrTP" [("symbolic", 's'), ("force", 'f'), ("verbose", 'v')] fun flags =>
    let symbolic := flags.has 's'
    let make (files : Files) (source target : String) : Except String (Files × List Piece) :=
      let kind := if symbolic then "symbolic link" else "hard link"
      let fault (e : IoError) : Except String (Files × List Piece) :=
        let more := if symbolic || e = .os 17 then "" else s!" => {shellQuoted source}"
        .error s!"failed to create {kind} {shellQuoted target}{more}: {errorText e}"
      let node := if symbolic then some (FileNode.link source) else
        match files.resolveEntry o.dir source with
        | .ok found => files.node? found
        | .error _ => none
      match node, files.resolveEntry o.dir target, files.resolveNew o.dir target with
      | none, _, _ => .error s!"failed to access {shellQuoted source}: No such file or directory"
      | some (.directory _), _, _ =>
        .error s!"{shellQuoted source}: hard link not allowed for directory"
      | some node, .ok found, _ =>
        if flags.has 'f' then .ok (files.put found node, []) else fault (.os 17)
      | some node, .error _, .ok found => .ok (files.put found node, [])
      | _, .error _, .error e => fault e
    match flags.operands with
    | [] => misuse o 1 "missing file operand"
    | [source] =>
      change o [source] fun files source => make files source (lastName source)
    | operands =>
      let target := operands.getLast?.getD ""
      let sources := operands.dropLast
      if isDirectory o target && !flags.has 'n' then
        change o sources fun files source => make files source (below target (lastName source))
      else if 1 < sources.length then
        complain o 1 s!"target {shellQuoted target}: {noDirectory o target}"
      else change o sources fun files source => make files source target

/-- Make one more name for a file. -/
def link (o : Occasion) : Effect :=
  withFlags o 1 "" [] fun flags =>
    match flags.operands with
    | [] => misuse o 1 "missing operand"
    | [source] => misuse o 1 s!"missing operand after {quoted source}"
    | [source, target] =>
      change o [target] fun files target =>
        let fault (e : IoError) : Except String (Files × List Piece) :=
          .error s!"cannot create link {shellQuoted target} to {shellQuoted source}: {errorText e}"
        match files.resolveEntry o.dir source, files.resolveEntry o.dir target with
        | .error e, _ => fault e
        | .ok _, .ok _ => fault (.os 17)
        | .ok found, .error _ =>
          match files.node? found, files.resolveNew o.dir target with
          | _, .error e => fault e
          | some node, .ok place =>
            if node.isDirectory then fault (.os 1) else .ok (files.put place node, [])
          | none, .ok _ => fault .noSuchFile
    | _ :: _ :: extra :: _ => misuse o 1 s!"extra operand {quoted extra}"

/-- Take a name from a file. -/
def unlink (o : Occasion) : Effect :=
  withFlags o 1 "" [] fun flags =>
    match flags.operands with
    | [] => misuse o 1 "missing operand"
    | [path] =>
      change o [path] fun files path =>
        match files.resolveEntry o.dir path with
        | .error e => .error s!"cannot unlink {shellQuoted path}: {errorText e}"
        | .ok found =>
          if files.isDirectory found then
            .error s!"cannot unlink {shellQuoted path}: Is a directory"
          else .ok (files.delete found, [])
    | _ :: extra :: _ => misuse o 1 s!"extra operand {quoted extra}"

/-- A template with letters for its places, the first in the order of numbers that is not taken.
Fuel is how many are tried. -/
def freeName (files : Files) (dir : List String) (front back : String) (places n fuel : Nat) :
    String :=
  let letters := "0123456789abcdefghijklmnopqrstuvwxyz".toList
  let text := String.ofList ((List.range places).map fun i =>
    letters.getD (n / Nat.pow 36 (places - 1 - i) % 36) '0')
  let name := front ++ text ++ back
  match fuel with
  | 0 => name
  | fuel + 1 =>
    match files.resolveEntry dir name with
    | .ok _ => freeName files dir front back places (n + 1) fuel
    | .error _ => name

/-- Make a file or a directory with a new name. -/
def mktemp (o : Occasion) : Effect :=
  withFlags o 1 "duqtp:S:" [("directory", 'd'), ("dry-run", 'u'), ("quiet", 'q'),
      ("tmpdir", 'p'), ("suffix", 'S')] fun flags =>
    match flags.operands with
    | _ :: _ :: _ => misuse o 1 "too many templates"
    | operands =>
      let template := operands.headD "tmp.XXXXXXXXXX"
      let common := ((o.env.find? (·.1 = "TMPDIR")).map (·.2)).getD "/tmp"
      let base := (flags.value? 'p').orElse fun () =>
        if operands.isEmpty || flags.has 't' then some common else none
      let cs := template.toList.reverse
      let behind := if flags.has 'S' then [] else cs.takeWhile (· ≠ 'X')
      let places := (cs.drop behind.length).takeWhile (· = 'X')
      let back := String.ofList behind.reverse ++ (flags.value? 'S').getD ""
      if places.length < 3 then
        complain o 1 s!"too few X's in template {quoted template}"
      else
        let front := String.ofList (cs.drop (behind.length + places.length)).reverse
        let path (name : String) : String :=
          match base with
          | some dir => below dir name
          | none => name
        let name := freeName o.files o.dir (path front) back places.length 0 1000
        match o.files.resolveNew o.dir name with
        | .error e =>
          let kind := if flags.has 'd' then "directory" else "file"
          if flags.has 'q' then silent o 1
          else
            complain o 1
              s!"failed to create {kind} via template {quoted (path template)}: {errorText e}"
        | .ok found =>
          let node := if flags.has 'd' then FileNode.directory 0o700 else .file [] 0o600
          { printLines o [name] with
            files := if flags.has 'u' then o.files else o.files.put found node }

/-- Make files longer or shorter. -/
def truncate (o : Occasion) : Effect :=
  withFlags o 1 "s:cor:" [("size", 's'), ("no-create", 'c')] fun flags =>
    match flags.value? 's', flags.operands with
    | none, _ => misuse o 1 "you must specify either '--size' or '--reference'"
    | _, [] => misuse o 1 "missing file operand"
    | some text, paths =>
      let (sign, digits) := match text.toList with
        | '+' :: cs => ('+', String.ofList cs)
        | '-' :: cs => ('-', String.ofList cs)
        | _ => ('=', text)
      match readSize digits with
      | none => complain o 1 s!"Invalid number: {quoted text}"
      | some n =>
        change o paths fun files path =>
          match openTarget o files path with
          | .ok (.file found) =>
            let old := match files.node? found with | some (.file bytes _) => bytes | _ => []
            let size := match sign with
              | '+' => old.length + n
              | '-' => old.length - n
              | _ => n
            let bytes := old.take size ++ List.replicate (size - old.length) 0
            .ok (store o files found false bytes, [])
          | .ok _ => .ok (files, [])
          | .error e => .error s!"cannot open {shellQuoted path} for writing: {errorText e}"

/-- Change permission bits. -/
def chmod (o : Occasion) : Effect :=
  -- A mode may begin with a hyphen.
  let (front, rest) := match o.args with
    | arg :: rest =>
      match arg.toList with
      | '-' :: c :: _ =>
        if ['r', 'w', 'x', 'X', 's', 't', 'u', 'g', 'o'].contains c then ([], arg :: rest)
        else ([arg], rest)
      | _ => ([], arg :: rest)
    | [] => ([], [])
  match Grammar.read ⟨"Rvcf".toList, [("recursive", 'R'), ("verbose", 'v')], true⟩ front with
  | .error message => misuse o 1 message
  | .ok flags =>
    match flags.operands ++ rest with
    | [] => misuse o 1 "missing operand"
    | [mode] => misuse o 1 s!"missing operand after {quoted mode}"
    | mode :: paths =>
      if (Mode.changed? o.umask false 0 mode).isNone then misuse o 1 s!"invalid mode: {quoted mode}"
      else
        change o paths fun files path =>
          match files.resolve o.dir path with
          | .error e => .error s!"cannot access {shellQuoted path}: {errorText e}"
          | .ok found =>
            match files.node? found with
            | some (.file bytes old) =>
              let new := (Mode.changed? o.umask false old mode).getD old
              .ok (files.put found (.file bytes new), [])
            | some (.fifo old) =>
              let new := (Mode.changed? o.umask false old mode).getD old
              .ok (files.put found (.fifo new), [])
            | some (.directory old) =>
              let new := (Mode.changed? o.umask true old mode).getD old
              .ok (files.put found (.directory new), [])
            | _ => .ok (files, [])

/-! ### Removing -/

/-- Remove files. -/
def rm (o : Occasion) : Effect :=
  withFlags o 1 "dfirRvI" [("force", 'f'), ("recursive", 'r'), ("dir", 'd'), ("verbose", 'v')]
  fun flags =>
    let deep := flags.has 'r' || flags.has 'R'
    match flags.operands with
    | [] => if flags.has 'f' then silent o 0 else misuse o 1 "missing operand"
    | paths =>
      change o paths fun files path =>
        let fault (text : String) : Except String (Files × List Piece) :=
          .error s!"cannot remove {shellQuoted path}: {text}"
        let said (what : String) : List Piece :=
          if flags.has 'v' then [.out (.ofRaw s!"removed {what}{shellQuoted path}\n")] else []
        match files.resolveEntry o.dir path with
        | .error e =>
          if flags.has 'f' && (e = .noSuchFile || e = .os 20) then .ok (files, [])
          else fault (errorText e)
        | .ok found =>
          if !(files.isDirectory found) then .ok (files.delete found, said "")
          else if deep && ((lastName path) = "." || (lastName path) = "..") then
            .error (s!"refusing to remove '.' or '..' directory: skipping {shellQuoted path}")
          else if deep then .ok (files.deleteTree found, said "directory ")
          else if flags.has 'd' then
            if (files.children found).isEmpty then .ok (files.delete found, said "directory ")
            else fault "Directory not empty"
          else fault "Is a directory"

/-- Remove empty directories. -/
def rmdir (o : Occasion) : Effect :=
  withFlags o 1 "pv" [("parents", 'p'), ("verbose", 'v'), ("ignore-fail-on-non-empty", 'i')]
  fun flags =>
    match flags.operands with
    | [] => misuse o 1 "missing operand"
    | paths =>
      let withParents (path : String) : List String :=
        if !flags.has 'p' then [path]
        else
          let names := (Files.names path).filter (· ≠ "")
          (List.range names.length).map fun k =>
            "/".intercalate (names.take (names.length - k))
      change o (paths.flatMap withParents) fun files path =>
        let fault (text : String) : Except String (Files × List Piece) :=
          .error s!"failed to remove {shellQuoted path}: {text}"
        match files.resolveEntry o.dir path with
        | .error e => fault (errorText e)
        | .ok found =>
          if !(files.isDirectory found) then fault "Not a directory"
          else if !(files.children found).isEmpty then fault "Directory not empty"
          else .ok (files.delete found, [])

/-! ### Copying and moving -/

/-- What a file becomes when it is copied. -/
def copied (o : Occasion) (keeps : Bool) (node : FileNode) : FileNode :=
  match node with
  | .file bytes mode => .file bytes (if keeps then mode else Mode.without mode o.umask)
  | .directory mode => .directory (if keeps then mode else Mode.without mode o.umask)
  | .nullDevice => .file [] (newMode o)
  | node => node

/-- Copy one file or tree. -/
def copyOne (o : Occasion) (flags : Flags) (files : Files) (source target : String) :
    Except String (Files × List Piece) :=
  let deep := flags.has 'r' || flags.has 'R' || flags.has 'a'
  let keepsLinks := flags.has 'a' || flags.has 'P' || flags.has 'd' || deep
  let said : List Piece :=
    if flags.has 'v' then
      [.out (.ofRaw s!"{shellQuoted source} -> {shellQuoted target}\n")] else []
  match files.follow (!keepsLinks) o.dir source with
  | .error e => .error s!"cannot stat {shellQuoted source}: {errorText e}"
  | .ok found =>
    let node := (files.node? found).getD (.directory Files.plainDirMode)
    match node, files.resolveNew o.dir target with
    | .directory _, .error e =>
      .error s!"cannot create directory {shellQuoted target}: {errorText e}"
    | .directory _, .ok place =>
      if !deep then .error s!"-r not specified; omitting directory {shellQuoted source}"
      else if found.isPrefixOf place then
        .error (s!"cannot copy a directory, {shellQuoted source}, into itself, " ++
          shellQuoted target)
      else if (files.node? place).any (!·.isDirectory) then
        .error (s!"cannot overwrite non-directory {shellQuoted target} with directory " ++
          shellQuoted source)
      else
        let tree := (files.subtree found).map fun (p, n) => (p, copied o (flags.has 'p') n)
        .ok (files.graft place tree, said)
    | _, .error e => .error s!"cannot create regular file {shellQuoted target}: {errorText e}"
    | node, .ok place =>
      if place = found then
        .error s!"{shellQuoted source} and {shellQuoted target} are the same file"
      else
        match files.node? place with
        | some (.directory _) =>
          .error s!"cannot overwrite directory {shellQuoted target} with non-directory"
        | some (.file _ mode) =>
          if flags.has 'n' then .ok (files, [])
          else
            let keeps := flags.has 'p' || flags.has 'a'
            match node with
            | .file bytes old => .ok (files.put place (.file bytes (if keeps then old else mode)),
                said)
            | node => .ok (files.put place (copied o keeps node), said)
        | some (.descriptor fd) =>
          match node with
          | .file bytes _ =>
            .ok (files, if fd = 2 then [.err bytes] else [.out (.ofBytes bytes)])
          | _ => .ok (files, [])
        | some .nullDevice => .ok (files, said)
        | some .zeroDevice => .ok (files, said)
        | some .fullDevice =>
          .error s!"error writing {shellQuoted target}: No space left on device"
        | _ => .ok (files.put place (copied o (flags.has 'p' || flags.has 'a') node), said)

/-- Move one file or tree. -/
def moveOne (o : Occasion) (flags : Flags) (files : Files) (source target : String) :
    Except String (Files × List Piece) :=
  let said : List Piece :=
    if flags.has 'v' then
      [.out (.ofRaw s!"renamed {shellQuoted source} -> {shellQuoted target}\n")] else []
  match files.resolveEntry o.dir source with
  | .error e => .error s!"cannot stat {shellQuoted source}: {errorText e}"
  | .ok found =>
    let there := match files.resolveEntry o.dir (trimSlashes target) with
      | .ok place => Except.ok place
      | .error _ => files.resolveNew o.dir (trimSlashes target)
    match there with
    | .error e =>
      .error s!"cannot move {shellQuoted source} to {shellQuoted target}: {errorText e}"
    | .ok place =>
      let isDir := files.isDirectory found
      if place = found then
        .error s!"{shellQuoted source} and {shellQuoted target} are the same file"
      else if isDir && found.isPrefixOf place then
        .error (s!"cannot move {shellQuoted source} to a subdirectory of itself, " ++
          shellQuoted target)
      else if !isDir && files.isDirectory place then
        .error s!"cannot overwrite directory {shellQuoted target} with non-directory"
      else if isDir && (files.node? place).any (!·.isDirectory) then
        .error (s!"cannot overwrite non-directory {shellQuoted target} with directory " ++
          shellQuoted source)
      else if isDir && !(files.children place).isEmpty then
        .error (s!"cannot move {shellQuoted source} to {shellQuoted target}: " ++
          "Directory not empty")
      else if flags.has 'n' && (files.node? place).isSome then .ok (files, [])
      else if (files.node? place).any FileNode.isDevice then .ok (files.deleteTree found, said)
      else
        let tree := files.subtree found
        .ok (((files.deleteTree place).deleteTree found).graft place tree, said)

/-- A program that brings files to a target. -/
def bring (o : Occasion) (flags : Flags)
    (one : Files → String → String → Except String (Files × List Piece)) : Effect :=
  let into (target : String) (sources : List String) : Effect :=
    change o sources fun files source => one files source (below target (lastName source))
  match flags.value? 't', flags.operands with
  | some _, [] => misuse o 1 "missing file operand"
  | some target, sources => into target sources
  | none, [] => misuse o 1 "missing file operand"
  | none, [source] => misuse o 1 s!"missing destination file operand after {shellQuoted source}"
  | none, operands =>
    let target := operands.getLast?.getD ""
    let sources := operands.dropLast
    if isDirectory o target && !flags.has 'T' then into target sources
    else if 1 < sources.length then
      complain o 1 s!"target {shellQuoted target}: {noDirectory o target}"
    else change o sources fun files source => one files source target

/-- Copy files. -/
def cp (o : Occasion) : Effect :=
  withFlags o 1 "abdfilLnHpPrRst:Tuvx"
    [("archive", 'a'), ("force", 'f'), ("no-clobber", 'n'), ("recursive", 'r'),
     ("target-directory", 't'), ("no-target-directory", 'T'), ("verbose", 'v')]
  fun flags => bring o flags (copyOne o flags)

/-- Move files. -/
def mv (o : Occasion) : Effect :=
  withFlags o 1 "bfint:Tuv"
    [("force", 'f'), ("no-clobber", 'n'), ("target-directory", 't'),
     ("no-target-directory", 'T'), ("verbose", 'v')]
  fun flags => bring o flags (moveOne o flags)

/-- Copy blocks. -/
def dd (o : Occasion) : Effect :=
  let operand? (name : String) : Option String := o.args.findSome? fun arg =>
    if (name ++ "=").toList.isPrefixOf arg.toList then
      some (String.ofList (arg.toList.drop (name.length + 1)))
    else none
  let names := ["if", "of", "bs", "ibs", "obs", "count", "skip", "seek", "status", "conv",
    "iflag", "oflag", "cbs"]
  let bad? := o.args.find? fun arg =>
    !(names.any fun name => (name ++ "=").toList.isPrefixOf arg.toList)
  let size := (((operand? "bs").orElse fun () => operand? "ibs").bind readSize).getD 512
  let number (name : String) : Nat := ((operand? name).bind readSize).getD 0
  let source := (operand? "if").getD "-"
  match bad?, openFile o source with
  | some arg, _ => misuse o 1 s!"unrecognized operand {quoted arg}"
  | none, .error e =>
    if e = .os 21 then complain o 1 s!"error reading {shellQuoted source}: {errorText e}"
    else complain o 1 s!"failed to open {shellQuoted source}: {errorText e}"
  | none, .ok flow =>
    let badNumber := ["bs", "ibs", "obs", "count", "skip", "seek", "cbs"].findSome? fun name =>
      (operand? name).filter fun text => (readSize text).isNone
    if let some text := badNumber then complain o 1 s!"invalid number: {quoted text}" else
    let flow := flow.drop (size * number "skip")
    let endless := !flow.ends && (operand? "count").isNone
    let bytes := match operand? "count" with
      | some count => flow.take (size * (readSize count).getD 0)
      | none => flow.toBytes
    let whole := bytes.length / size
    let part := if bytes.length % size = 0 then 0 else 1
    let records := s!"{whole}+{part} records"
    let unit := if bytes.length = 1 then "byte" else "bytes"
    let stats := s!"{records} in\n{records} out\n" ++
      if operand? "status" = some "noxfer" then "" else s!"{bytes.length} {unit} copied\n"
    let notes : List Piece :=
      if operand? "status" = some "none" then [] else [.err (Bytes.ofRaw stats)]
    let conv := (((operand? "conv").getD "").toList.splitOn ',').map String.ofList
    let shown := bytes.map fun b =>
      if conv.contains "ucase" && 97 ≤ b && b ≤ 122 then b - 32
      else if conv.contains "lcase" && 65 ≤ b && b ≤ 90 then b + 32
      else b
    let out : Flow := if endless then flow else .ofBytes shown
    let isFull := (operand? "count").any fun count =>
      size * (readSize count).getD 0 ≤ bytes.length
    let rest : Remainder :=
      if source = "-" then ⟨flow.drop bytes.length, if isFull then some bytes.length else none⟩
      else untouched o
    match operand? "of" with
    | none => { finish o 0 (.out out :: notes) with rest }
    | some path =>
      match openTarget o o.files path with
      | .error e => complain o 1 s!"failed to open {shellQuoted path}: {errorText e}"
      | .ok .out => { finish o 0 (.out out :: notes) with rest }
      | .ok .err => { finish o 0 (.err shown :: notes) with rest }
      | .ok .void =>
        { finish o 0 notes with rest, micros := if endless then forever else startup }
      | .ok .full => complain o 1 s!"error writing {shellQuoted path}: No space left on device"
      | .ok (.file found) =>
        let old := match o.files.node? found with | some (.file old _) => old | _ => []
        let start := size * number "seek"
        let front := old.take start ++ List.replicate (start - old.length) 0
        let back := if conv.contains "notrunc" then old.drop (start + shown.length) else []
        { finish o 0 notes with
          rest, files := store o o.files found false (front ++ shown ++ back) }

/-! ### Comparing and finding -/

/-- The first place where two texts differ, counted from one, with its line. -/
def firstDifference (place line : Nat) : Bytes → Bytes → Option (Nat × Nat) × Bool
  | a :: as, b :: bs =>
    if a = b then firstDifference (place + 1) (if a = Bytes.newline then line + 1 else line) as bs
    else (some (place, line), false)
  | [], [] => (none, false)
  | _, _ => (some (place, line), true)

/-- Compare two files octet by octet. -/
def cmp (o : Occasion) : Effect :=
  withFlags o 2 "sbln:" [("silent", 's'), ("quiet", 's')] fun flags =>
    match flags.operands with
    | [] => misuse o 2 "missing operand after 'cmp'"
    | first :: rest =>
      let second := rest.headD "-"
      match openFile o first, openFile o second with
      | .error e, _ => complain o 2 (fileFault first e)
      | _, .error e => complain o 2 (fileFault second e)
      | .ok a, .ok b =>
        let a := a.toBytes
        let b := b.toBytes
        match firstDifference 1 1 a b with
        | (none, _) => silent o 0
        | (some (place, line), false) =>
          if flags.has 's' then silent o 1
          else
            { printLines o [s!"{first} {second} differ: char {place}, line {line}"] with
              status := 1 }
        | (some (place, line), true) =>
          if flags.has 's' then silent o 1
          else
            let short := if a.length < b.length then first else second
            let ended := if a.length < b.length then a else b
            let text :=
              if ended.isEmpty then s!"EOF on {short} which is empty"
              else if ended.getLast? = some Bytes.newline then
                s!"EOF on {short} after byte {place - 1}, line {line - 1}"
              else s!"EOF on {short} after byte {place - 1}, in line {line}"
            complain o 1 text

/-- What is asked of a file that is looked for. -/
inductive Wanted where
  | named (pattern : String)
  | kind (letter : String)
  | empty
  | not (w : Wanted)

/-- Whether a file is one that is looked for. -/
def Wanted.fits (w : Wanted) (files : Files) (place : List String) (name : String)
    (node : FileNode) : Bool :=
  match w with
  | .named pattern => Shell.Pattern.fits (pattern.toList.map fun c => ⟨c, false⟩) name.toList
  | .kind letter =>
    match letter with
    | "f" => node.isFile
    | "d" => node.isDirectory
    | "l" => match node with | .link _ => true | _ => false
    | "c" => node.isDevice
    | "p" => node.isFifo
    | _ => false
  | .empty =>
    match node with
    | .directory _ => (files.children place).isEmpty
    | .file bytes _ => bytes.isEmpty
    | _ => false
  | .not w => !(w.fits files place name node)

/-- What to look for, how deep, and what to do with it. -/
structure Quest where
  wanted : List Wanted
  least : Nat
  most : Option Nat
  deletes : Bool
  ending : String

/-- Read the words of a quest. -/
def Quest.read (q : Quest) (negated : Bool) : List String → Except String Quest
  | [] => .ok q
  | "!" :: rest => read q (!negated) rest
  | "-not" :: rest => read q (!negated) rest
  | "-a" :: rest => read q negated rest
  | "-print" :: rest => read q false rest
  | "-print0" :: rest => read { q with ending := "\x00" } false rest
  | "-delete" :: rest => read { q with deletes := true } false rest
  | "-empty" :: rest =>
    read { q with wanted := q.wanted ++ [if negated then .not .empty else .empty] } false rest
  | [word] =>
    if ["-name", "-type", "-maxdepth", "-mindepth"].contains word then
      .error s!"missing argument to \x60{word}'"
    else .error s!"unknown predicate \x60{word}'"
  | word :: value :: rest =>
    let add (w : Wanted) : Except String Quest :=
      read { q with wanted := q.wanted ++ [if negated then .not w else w] } false rest
    match word with
    | "-name" => add (.named value)
    | "-type" => add (.kind value)
    | "-maxdepth" => read { q with most := readNat value } false rest
    | "-mindepth" => read { q with least := (readNat value).getD 0 } false rest
    | word => .error s!"unknown predicate \x60{word}'"

/-- Look for files below directories. -/
def find (o : Occasion) : Effect :=
  let isPlace (arg : String) : Bool := arg.toList.head? ≠ some '-' && arg ≠ "!" && arg ≠ "("
  let starts := o.args.takeWhile isPlace
  match Quest.read ⟨[], 0, none, false, "\n"⟩ false (o.args.dropWhile isPlace) with
  | .error message => complain o 1 message
  | .ok q =>
    change o (if starts.isEmpty then ["."] else starts) fun files start =>
      match files.resolveEntry o.dir start with
      | .error e => .error s!"{quoted start}: {errorText e}"
      | .ok place =>
        let hits := (files.subtree place).filter fun (p, node) =>
          let name := (p.getLast?).getD (lastName start)
          q.least ≤ p.length && q.most.all (p.length ≤ ·) &&
            q.wanted.all fun w => w.fits files (place ++ p) name node
        let root : List (List String) := if place = [] then [[]] else []
        let paths := root ++ hits.map (·.1)
        if q.deletes then
          .ok ((hits.map (·.1)).foldl (fun files p => files.delete (place ++ p)) files, [])
        else
          let text (p : List String) : String :=
            if p = [] then start else below start ("/".intercalate p)
          .ok (files, [.out (.ofRaw (String.join (paths.map fun p => text p ++ q.ending)))])

end Outflow.Utility
