import ModelBindings.Proofs.CommandLine.FullPath
import ModelBindings.Proofs.Json.RoundTrip
import ModelBindings.Proofs.Package.Relocate
import ModelBindings.Proofs.Package.Write
import ModelBindings.Proofs.Path.Detours
import ModelBindings.Proofs.Value
import ModelBindings.Service

/-!
# The command and the service

A package can be made by the command from a file, or by the service from a request that holds the
document. Both come down to the same run, but for the path of the directory: the command takes it
from the root on.

* `IsGenerationRequest` : a request for generation, by what it says.
* `handle_generation`, `run_generation` : the run that either comes down to.
* `entry_points_agree` : both leave the same tree and end alike, if no path is too long for one of
  them only.
* `entry_points_differ` : where a path is, they need not.
-/

set_option autoImplicit false

namespace ModelBindings

/-- A request for generation: the document, the directory of the package and the module of its
enums. -/
structure IsGenerationRequest (request document : Value) (output enumsModule : Text) : Prop where
  method : request.at? ["method"] = some (.text "generate")
  document : request.at? ["params", "dmmf"] = some document
  output : request.at? ["params", "generator", "output", "value"] = some (.text output)
  options : request.at? ["params", "generator", "config"]
    = some (.object [("enumsModule", .text enumsModule)])

/-- The settings of a run that writes to a directory, with a module for the enums. -/
def generationSettings (output enumsModule : Text) : Settings :=
  { Settings.defaults with
    enabled := .bool true, outputDir := .text output, enumsModule := .text enumsModule }

/-- Make a package from a document. -/
def generateFrom (document : Value) (c : Settings) (t : FileTree) : Outcome (List Path) :=
  (Outcome.ofTraced t (Datamodel.read document)).bind fun t d => Package.write c d .null t

variable {t : FileTree} {request document : Value} {ms : Members} {m p o : Text}

/-! ## The service -/

theorem Service.orEmpty_object (ms : Members) : orEmpty (.object ms) = .object ms := by
  cases ms <;> rfl

/-- What the parameters of a request for generation ask for. -/
theorem readOrder_generation {params : Value}
    (hdocument : params.at? ["dmmf"] = some (.object ms))
    (houtput : params.at? ["generator", "output", "value"] = some (.text o))
    (hoptions : params.at? ["generator", "config"] = some (.object [("enumsModule", .text m)])) :
    Service.readOrder (Service.environmentOf (some "true")) params
      = .ok { settings := generationSettings o m, document := .object ms } := by
  obtain ⟨ps, d, rfl, hd, hd'⟩ := Value.at?_cons hdocument
  obtain rfl := Option.some.inj hd'
  obtain ⟨_, g, he, hg, houtput⟩ := Value.at?_cons houtput
  obtain rfl := Value.object.inj he
  obtain ⟨gs, w, rfl, hw, hvalue⟩ := Value.at?_cons houtput
  obtain ⟨ws, v, rfl, hv, hv'⟩ := Value.at?_cons hvalue
  obtain rfl := Option.some.inj hv'
  obtain ⟨_, g', he, hg', hoptions⟩ := Value.at?_cons hoptions
  obtain rfl := Value.object.inj he
  obtain rfl := Option.some.inj (hg.symm.trans hg')
  obtain ⟨_, c, he, hc, hc'⟩ := Value.at?_cons hoptions
  obtain rfl := Value.object.inj he
  obtain rfl := Option.some.inj hc'
  have hkey : Setting.ofKey? (snakeCase "enumsModule") = some .enumsModule := by decide +kernel
  have hread : Settings.readOptions (.object [("enumsModule", .text m)])
      = .ok { Settings.defaults with enumsModule := .text m } := by
    simp only [Settings.readOptions, List.foldl_cons, List.foldl_nil, Settings.setOption, hkey]
    rfl
  have henabled : Service.isEnabled (Service.environmentOf (some "true")) = .ok true := by
    have hyes : Settings.saysYes "true" = true := by decide +kernel
    exact congrArg Except.ok hyes
  unfold Service.readOrder Service.readSettings Service.get
  simp only [hd, hg, hw, hv, hc, Option.getD_some, Service.orEmpty_object, hread, henabled, bind,
    Except.bind, pure, Except.pure]
  rfl

/-- The service answers a request for generation with the run on its document. -/
theorem handle_generation (h : IsGenerationRequest request (.object ms) o m) (t : FileTree) :
    let x := generateFrom (.object ms) (generationSettings o m) t
    let a := Service.handle (Service.environmentOf (some "true")) t request
    a.tree = x.tree ∧ a.response.outcome.isOk = x.result.isOk := by
  intro x a
  obtain ⟨rs, w, hrequest, hmethod, hw⟩ := Value.at?_cons h.method
  obtain rfl := Option.some.inj hw
  obtain ⟨_, params, he, hparams, hdocument⟩ := Value.at?_cons h.document
  obtain rfl := Value.object.inj (hrequest.symm.trans he)
  have hrest : ∀ {r w}, request.at? (("params" : Text) :: r) = some w → params.at? r = some w := by
    intro r w hr
    obtain ⟨_, u, he, hu, hr⟩ := Value.at?_cons hr
    obtain rfl := Value.object.inj (hrequest.symm.trans he)
    obtain rfl := Option.some.inj (hparams.symm.trans hu)
    exact hr
  have horder := readOrder_generation hdocument (hrest h.output) (hrest h.options)
  have hempty : Service.orEmpty params = params := by
    obtain ⟨ps, -, rfl, -⟩ := Value.at?_cons hdocument
    exact Service.orEmpty_object ps
  have hgenerate : Service.generate (Service.environmentOf (some "true")) t params = x := by
    unfold Service.generate
    rw [horder]
    rfl
  subst hrequest
  have hanswer : ∀ id, Service.answerMethod (Service.environmentOf (some "true")) t
      (.text "generate") id params = Service.answerRun id x := by
    intro id
    unfold Service.answerMethod
    rw [if_neg (by decide), if_pos (by decide), hempty, hgenerate]
  have ha : a.tree = (Service.answerRun ((Value.object rs).memberD "id" .null) x).tree ∧
      a.response = (Service.answerRun ((Value.object rs).memberD "id" .null) x).response := by
    show (Service.handle _ t (.object rs)).tree = _ ∧ (Service.handle _ t (.object rs)).response = _
    unfold Service.handle
    dsimp only
    rw [Value.memberD_of_get hmethod, Value.memberD_of_get hparams, hanswer]
    exact ⟨rfl, rfl⟩
  rw [ha.1, ha.2]
  unfold Service.answerRun
  cases x.result <;> exact ⟨rfl, rfl⟩

/-! ## The command -/

/-- The arguments of a run of the command that generates. -/
def generationArguments (enumsModule path output : Text) : List Text :=
  ["--enable", "--enums-module", enumsModule, path, output]

namespace CommandLine

/-- What these arguments say. -/
def given (enumsModule path output : Text) : Arguments :=
  { config := none, enumsModule := some enumsModule, enable := some true, verbose := false
    help := false, order := [.enabled, .enumsModule], positional := [path, output] }

theorem readOne_enable (a : Arguments) :
    readOne a "--enable" = .ok (.complete (a.setFlag .enable)) := rfl

theorem readOne_enumsModule (a : Arguments) :
    readOne a "--enums-module" = .ok (.awaiting "--enums-module" .enumsModule a) := rfl

/-- An argument without a dash in front stands for itself. -/
theorem readMore_positional {s : Text} (hs : s.toList.head? ≠ some (.char '-')) (a : Arguments)
    (r : List Text) : a.readMore (s :: r) = (a.addPositional [s]).readMore r := by
  have hdashes : s ≠ "--" := by
    rintro rfl
    exact hs rfl
  have hoption : isOption s = false := by
    unfold isOption
    split
    · rename_i he
      rw [he] at hs
      exact absurd rfl hs
    · rfl
  rw [Arguments.readMore, if_neg hdashes, readOne, hoption]
  rfl

theorem read_generation (hp : p.toList.head? ≠ some (.char '-'))
    (ho : o.toList.head? ≠ some (.char '-')) :
    Arguments.read (generationArguments m p o) = .ok (given m p o) := by
  unfold Arguments.read generationArguments
  rw [Arguments.readMore, if_neg (by decide), readOne_enable]
  dsimp only
  rw [Arguments.readMore, if_neg (by decide), readOne_enumsModule]
  dsimp only
  rw [readMore_positional hp, readMore_positional ho]
  rfl

theorem findSome?_pathFault?_eq_none_iff {s : Text} :
    (Path.pieces s).findSome? FileTree.pathFault? = none ↔ s.IsNameable := by
  rw [List.findSome?_eq_none_iff, isNameable_iff_pieces]
  exact forall₂_congr fun _ _ => FileTree.pathFault?_eq_none_iff

/-- The path of a parameter is read where all that it holds can be given to the file system. -/
theorem readPath_of_nameable {s : Text} (h : s.IsNameable) (t : FileTree) :
    readPath t s = .ok (fullPath t s).toString := by
  rw [readPath, findSome?_pathFault?_eq_none_iff.mpr h]

/-- Else it is refused. -/
theorem readPath_of_not_nameable {s : Text} (h : ¬ s.IsNameable) (t : FileTree) :
    ∃ e, readPath t s = .error (.fault (.file e)) := by
  unfold readPath
  cases hfault : (Path.pieces s).findSome? FileTree.pathFault? with
  | some e => exact ⟨e, rfl⟩
  | none => exact absurd (findSome?_pathFault?_eq_none_iff.mp hfault) h

/-- The arguments tell all that a run needs, unless the path of the directory cannot be one. -/
theorem invocation_generation (setting : Option Text)
    (hp : p.IsNameable) (hthere : t.leadsToEntry (fullPath t p) = true) :
    (given m p o).invocation setting t = (readPath t o).map fun output =>
      { config := none, enumsModule := some m, enabled := true, verbose := false
        path := (fullPath t p).toString, output } := by
  have hpath := readPath_of_nameable hp t
  have hexisting : readExisting t .path p = .ok (fullPath t p).toString := by
    unfold readExisting
    rw [hpath]
    dsimp only
    rw [if_pos hthere]
  have horder : readingOrder (given m p o)
      = [.enabled, .enumsModule, .path, .output, .config, .verbose] := rfl
  unfold Arguments.invocation
  rw [horder]
  simp only [List.foldlM_cons, List.foldlM_nil, Parameter.read, given, hexisting, bind,
    Except.bind, Except.map]
  cases readPath t o <;> rfl

/-- What a run of the command comes to: it makes the package, unless the path of the directory
cannot be one. -/
theorem answer_generation (hroot : FileTree.Rooted t) (setting : Option Text)
    (hp : p.toList.head? ≠ some (.char '-')) (ho : o.toList.head? ≠ some (.char '-'))
    (hdocument : t.readDocument p = .ok (.object ms))
    (hlength : (fullPath t p).toString.byteSize ≤ FileTree.pathLimit) :
    (o.IsNameable → answer setting t (generationArguments m p o) = finished .info
      (generateFrom (.object ms) (generationSettings (fullPath t o).toString m) t)) ∧
    (¬ o.IsNameable → ∃ e,
      answer setting t (generationArguments m p o) = stopped t (.fault (.file e))) := by
  obtain ⟨hnameable, hthere, hread⟩ := readDocument_fullPath hroot hdocument hlength
  have hinvocation := invocation_generation (m := m) (o := o) setting hnameable hthere
  have hhelp : ¬ (given m p o).help = true := Bool.false_ne_true
  unfold answer
  rw [read_generation hp ho]
  dsimp only
  rw [if_neg hhelp, hinvocation]
  constructor
  · intro h
    have hload : Datamodel.load t (fullPath t p).toString = Datamodel.read (.object ms) := by
      unfold Datamodel.load
      rw [hread]
    rw [readPath_of_nameable h]
    show finished .info (Invocation.generate _ (generationSettings (fullPath t o).toString m) t) = _
    unfold Invocation.generate generateFrom
    rw [hload]
  · intro h
    obtain ⟨e, he⟩ := readPath_of_not_nameable h t
    rw [he]
    exact ⟨e, rfl⟩

/-- Line ends are all that a run changes behind its answer. -/
theorem run_eq (setting : Option Text) (t : FileTree) (args : List Text) :
    (run setting t args).tree = (answer setting t args).tree ∧
      (run setting t args).exitCode = (answer setting t args).exitCode := by
  unfold run
  exact ⟨by dsimp only, by dsimp only⟩

theorem finished_tree (least : Level) (x : Outcome (List Path)) :
    (finished least x).tree = x.tree ∧
      ((finished least x).exitCode = 0 ↔ x.result.isOk = true) := by
  unfold finished failed
  cases x.result with
  | error f =>
    dsimp only
    split <;> exact ⟨rfl, iff_of_false Nat.one_ne_zero Bool.false_ne_true⟩
  | ok paths => exact ⟨rfl, iff_of_true rfl rfl⟩

end CommandLine

/-! ## Both -/

theorem write_generation {s : Text} (hs : s ≠ "") (m : Text) (d : Datamodel) (t : FileTree) :
    Package.write (generationSettings s m) d .null t
      = Package.writeInto (generationSettings s m) d (.ofString s) t := by
  have henabled : (generationSettings s m).enabled.isTruthy = true := rfl
  unfold Package.write
  rw [if_pos henabled, Package.outputDirectory_of_text hs rfl]

/-- No directory is made where the path cannot be given to the file system. -/
theorem makeDirectories_not_nameable (h : ¬ o.IsNameable) (t : FileTree) :
    ∃ e, t.makeDirectories (.ofString o) = (t, .error e) := by
  have hpath : ¬ (Path.ofString o).toString.IsNameable := by
    rw [Path.isNameable_toString]
    refine fun hnames => h (CommandLine.isNameable_iff_pieces.mpr fun n hn => ?_)
    by_cases hdropped : n = "" ∨ n = "."
    · rcases hdropped with rfl | rfl <;> decide
    · exact hnames n (List.mem_filter.mpr ⟨hn, by simpa using hdropped⟩)
  cases hcheck : FileTree.checkPath (Path.ofString o).toString with
  | error e => exact ⟨e, FileTree.makeDirectories_refused hcheck⟩
  | ok u => exact absurd (FileTree.checkPath_eq_ok.mp hcheck).1 hpath

/-- A directory whose path cannot be given to the file system is not written to. -/
theorem generateFrom_not_nameable (h : ¬ o.IsNameable) (document : Value)
    (t : FileTree) :
    (generateFrom document (generationSettings o m) t).tree = t ∧
      (generateFrom document (generationSettings o m) t).result.isOk = false := by
  have ho : o ≠ "" := by
    rintro rfl
    exact h (List.forall_mem_nil _)
  obtain ⟨e, hmade⟩ := makeDirectories_not_nameable h t
  unfold generateFrom
  cases hd : (Datamodel.read document).result with
  | error f =>
    unfold Outcome.bind Outcome.ofTraced
    rw [hd]
    exact ⟨rfl, rfl⟩
  | ok d =>
    rw [Outcome.bind_of_ok (x := .ofTraced t (Datamodel.read document)) hd]
    have hfails : Package.write (generationSettings o m) d .null t = .fail t (.file e) := by
      rw [write_generation ho]
      unfold Package.writeInto
      rw [hmade]
    show (Outcome.after _ (Package.write _ d .null t)).tree = t ∧
      (Outcome.after _ (Package.write _ d .null t)).result.isOk = false
    rw [hfails]
    exact ⟨rfl, rfl⟩

/-- Both entry points write a package alike. -/
theorem generateFrom_sameEnd (hroot : FileTree.Rooted t) (document : Value) (ho : o ≠ "")
    (hback : (".." : Text) ∉ Path.pieces o)
    (hout : FileTree.Alike (.ofString o) (CommandLine.fullPath t o))
    (hfiles : ∀ d files, (Datamodel.read document).result = .ok d →
      (Package.generate (generationSettings o m) d).result = .ok files → ∀ f ∈ files,
        let p := (Path.ofString o).join (.ofString f.1)
        let q := (CommandLine.fullPath t o).join (.ofString f.1)
        FileTree.Alike p q ∧ FileTree.Alike p.parent q.parent) :
    Outcome.SameEnd (generateFrom document (generationSettings o m) t)
      (generateFrom document (generationSettings (CommandLine.fullPath t o).toString m) t) := by
  unfold generateFrom
  refine Outcome.SameEnd.bind (.refl _) ?_
  intro d d' h h'
  obtain rfl : d = d' := Except.ok.inj (h.symm.trans h')
  have hfull : (CommandLine.fullPath t o).toString ≠ "" := Path.toString_root_ne_empty _
  show Outcome.SameEnd (Package.write _ d .null t) (Package.write _ d .null t)
  rw [write_generation ho, write_generation hfull, CommandLine.ofString_fullPath hroot hback]
  rw [CommandLine.fullPath_eq_fromRoot t hback] at hout hfiles ⊢
  exact Package.writeInto_sameEnd hroot _ hout (hfiles d · h)

/-- A document with one enum, and the tree of a directory that holds it. -/
def rolesDocument : Value :=
  .object [("enums", .list [.object [("name", .text "Role"), ("values", .list [])]])]

def rolesText : Text :=
  "\x7b\"enums\": [\x7b\"name\": \"Role\", \"values\": []\x7d]\x7d"

def rolesTree : FileTree :=
  (FileTree.empty "work").put ((Location.root.child "work").child "d.json")
    (.file (.text rolesText))

def roles : Datamodel :=
  { enums := [{ name := "Role", values := [], documentation := .null, storageName := .null }]
    models := [] }

/-- The text is the one that the document is written as. -/
theorem read_rolesText : Json.read rolesText.toList = .ok rolesDocument := by
  have hwritten : Json.write rolesDocument = rolesText := by decide +kernel
  have hfits : Json.Fits Json.nestingLimit rolesDocument := by
    refine .object (by simp [Association.keys]) ?_
    simp only [List.mem_singleton, forall_eq]
    refine .list ?_
    simp only [List.mem_singleton, forall_eq]
    refine .object (by simp [Association.keys]) ?_
    simpa using ⟨.text "Role", .list (List.forall_mem_nil _)⟩
  have hexact : rolesDocument.IsExact := by
    refine .object ?_
    simp only [List.mem_singleton, forall_eq]
    refine .list ?_
    simp only [List.mem_singleton, forall_eq]
    refine .object ?_
    simpa using ⟨.text "Role", .list (List.forall_mem_nil _)⟩
  have hwhole : rolesDocument.IsWhole := by
    refine .object (by decide) ?_
    simp only [List.mem_singleton, forall_eq]
    refine .list ?_
    simp only [List.mem_singleton, forall_eq]
    refine .object (by decide) ?_
    simpa using ⟨.text (by decide), .list (List.forall_mem_nil _)⟩
  have hread := Json.read_write_of_isWhole hfits hexact hwhole
  rwa [hwritten] at hread

theorem readDocument_rolesTree : rolesTree.readDocument "d.json" = .ok rolesDocument := by
  have htext : rolesTree.readText "d.json" = .ok rolesText.toList := by rfl
  unfold FileTree.readDocument
  rw [htext]
  dsimp only
  rw [read_rolesText]

theorem read_rolesDocument : (Datamodel.read rolesDocument).result = .ok roles := by rfl

theorem rolesTree_rooted : rolesTree.Rooted := by
  have hproper : IsProperName "work" := by
    refine ⟨⟨?_, ?_, ?_, ?_⟩, ?_, ?_⟩ <;> decide
  refine ⟨⟨fun n hn => ?_, fun a b hab hb => ?_⟩, by decide⟩
  · obtain rfl := List.mem_singleton.mp hn
    exact hproper
  · have ha : a = [] := by
      rcases List.append_eq_singleton_iff.mp hab.symm with ⟨ha, -⟩ | ⟨-, hb'⟩
      · exact ha
      · exact absurd hb' hb
    rw [ha]
    rfl

/-- A request for the package of this document. -/
def rolesRequest (output enumsModule : Text) : Value :=
  .object [("id", .int 1), ("method", .text "generate"), ("params", .object [
    ("dmmf", rolesDocument), ("generator", .object [
      ("output", .object [("value", .text output)]),
      ("config", .object [("enumsModule", .text enumsModule)])])])]

theorem rolesRequest_isGenerationRequest (output enumsModule : Text) :
    IsGenerationRequest (rolesRequest output enumsModule) rolesDocument output enumsModule :=
  ⟨rfl, rfl, rfl, rfl⟩

/-- The directory that the detours go into. -/
def aside : List CodePoint := List.replicate 251 'x'

/-- The name of a module behind detours. -/
def detouredModule : Text := Text.ofList (detours aside ("enums" : Text).toList 16)

theorem aside_isPlainName : IsPlainName (Text.ofList aside) := by
  have hne : ∀ s : Text, s.toList.length < 251 → Text.ofList aside ≠ s := by
    rintro s hs rfl
    rw [Text.toList_ofList, aside, List.length_replicate] at hs
    omega
  refine ⟨?_, hne _ (by decide), hne _ (by decide), hne _ (by decide)⟩
  rw [Text.toList_ofList]
  decide

theorem aside_size : (Text.ofList aside).byteSize = 251 := by decide +kernel

/-- The path of the module's file. -/
theorem ofString_detouredModule :
    Path.ofString (Package.fileName detouredModule)
      = { anchor := .current
          names := detourNames (.ofList aside) 16 ++ [("enums.py" : Text)] } := by
  have hfile : Package.fileName detouredModule
      = Text.ofList (detours aside ("enums.py" : Text).toList 16) := by
    have hlast :
        ("enums.py" : Text).toList = ("enums" : Text).toList ++ (".py" : Text).toList := by decide
    rw [hlast, ← detours_append, Text.ofList_append, Text.ofList_toList]
    rfl
  have hplain : IsPlainName (Text.ofList ("enums.py" : Text).toList) := by
    refine ⟨?_, ?_, ?_, ?_⟩ <;> decide
  rw [hfile, ofString_detours aside_isPlainName hplain, Text.ofList_toList]

/-- The first file of the package is that of the module. -/
theorem generate_roles (o : Text) : ∃ text r,
    (Package.generate (generationSettings o detouredModule) roles).result
      = .ok ((Package.fileName detouredModule, text) :: r) := by
  have hinit : Package.fileName detouredModule ≠ Package.fileName Package.initModule := by
    rw [Ne, Package.fileName_inj]
    intro h
    have hhead := congrArg (fun s => s.toList.head?) h
    simp only [detouredModule, Text.toList_ofList] at hhead
    revert hhead
    decide
  have hmarker := Package.fileName_ne_markerName detouredModule
  obtain ⟨text, htext⟩ : ∃ text,
      Package.enumFiles (generationSettings o detouredModule) roles.enums
        = .ok [(Package.fileName detouredModule, text)] := ⟨_, rfl⟩
  refine ⟨text, [(Package.fileName Package.initModule,
    Package.initText (generationSettings o detouredModule) roles), (Package.markerName, "")], ?_⟩
  unfold Package.generate
  rw [htext]
  show Except.ok (Package.close _ roles _) = _
  unfold Package.close
  simp only [Association.put, if_neg hinit, if_neg hmarker]
  rfl

/-- The directory of the package, and the tree that has it. -/
def rolesDirectory : Location := (Location.root.child "work").child "prisma_pydantic"

def rolesMade : FileTree := rolesTree.put rolesDirectory .directory

/-- Where its directory can be made, the package is written file by file. -/
theorem generateFrom_roles {s : Text} (hs : s ≠ "")
    (hmade : rolesTree.makeDirectories (.ofString s) = (rolesMade, .ok ())) :
    ∃ text r, (generateFrom rolesDocument (generationSettings s detouredModule) rolesTree).tree
      = (Package.writeFiles true (.ofString s) rolesMade
          ((Package.fileName detouredModule, text) :: r)).tree := by
  obtain ⟨text, r, hgen⟩ := generate_roles s
  refine ⟨text, r, ?_⟩
  unfold generateFrom
  rw [Outcome.bind_of_ok (x := .ofTraced rolesTree (Datamodel.read rolesDocument))
    read_rolesDocument, Outcome.tree_after]
  show (Package.write _ roles .null rolesTree).tree = _
  rw [write_generation hs]
  unfold Package.writeInto
  rw [hmade]
  dsimp only
  rw [Outcome.bind_of_ok (x := .ofTraced rolesMade (Package.generate _ roles)) hgen,
    Outcome.tree_after, Outcome.tree_bind_of_tree_eq fun _ _ => rfl]
  rfl

/-- The directory of the module's file, behind that of the package. -/
theorem parent_detouredModule (out : Path) :
    (out.join (.ofString (Package.fileName detouredModule))).parent
      = { out with names := out.names ++ detourNames (Text.ofList aside) 16 } := by
  rw [ofString_detouredModule]
  show Path.parent { out with
    names := out.names ++ (detourNames (Text.ofList aside) 16 ++ [("enums.py" : Text)]) } = _
  unfold Path.parent
  dsimp only
  rw [← List.append_assoc, List.dropLast_concat]

/-- The directory of the module's file from the current directory. -/
def detouredPath : Path :=
  { anchor := .current, names := ("prisma_pydantic" : Text) :: detourNames (.ofList aside) 16 }

/-- The same directory from the root. -/
def detouredFullPath : Path :=
  { anchor := .root
    names := ("work" : Text) :: ("prisma_pydantic" : Text) :: detourNames (.ofList aside) 16 }

/-- From the current directory, the path is as long as it may be. -/
theorem checkPath_detouredPath : FileTree.checkPath detouredPath.toString = .ok () := by
  rw [FileTree.checkPath_eq_ok]
  constructor
  · rw [Path.isNameable_toString]
    intro n hn
    rcases List.mem_cons.mp hn with rfl | hn
    · decide
    · rcases mem_detourNames hn with rfl | rfl
      · intro c hc
        rw [List.eq_of_mem_replicate hc]
        decide
      · decide
  · have hspelling : Anchor.current.spelling.byteSize = 0 := by decide
    have hdirectory : ("prisma_pydantic" : Text).byteSize = 15 := by decide
    have htext : detouredPath.toString = Anchor.current.spelling
        ++ Text.join "/" (("prisma_pydantic" : Text) :: detourNames (.ofList aside) 16) :=
      if_neg fun h => nomatch h.2
    rw [htext, Text.byteSize_append, byteSize_join_detours, aside_size, hspelling,
      hdirectory]
    unfold FileTree.pathLimit
    omega

/-- From the root, it is too long. -/
theorem checkPath_detouredFullPath :
    ∃ e, FileTree.checkPath detouredFullPath.toString = .error e := by
  have hlong : FileTree.pathLimit < detouredFullPath.toString.byteSize := by
    have hslash : ("/" : Text).byteSize = 1 := by decide
    have hdirectory : ("prisma_pydantic" : Text).byteSize = 15 := by decide
    rw [detouredFullPath, Path.toString_root, Text.byteSize_append, Text.join_cons_cons,
      Text.byteSize_append, byteSize_join_detours, aside_size, hslash, hdirectory]
    unfold FileTree.pathLimit
    omega
  cases h : FileTree.checkPath detouredFullPath.toString with
  | error e => exact ⟨e, rfl⟩
  | ok u => exact absurd (FileTree.checkPath_eq_ok.mp h).2 (Nat.not_le.mpr hlong)

/-- What a name that is new in the directory of the package leads to. -/
theorem rolesMade_new {n : Text} (hn : IsPlainName n)
    (hshort : n.byteSize ≤ FileTree.nameLimit) :
    rolesMade.child rolesDirectory n = .ok (rolesDirectory.child n) ∧
      rolesMade.lookup? (rolesDirectory.child n) = none := by
  have hthere : rolesMade.lookup? rolesDirectory = some .directory := by decide
  constructor
  · unfold FileTree.child
    rw [hthere]
    dsimp only
    rw [if_neg hn.ne_self, if_neg hn.ne_above, if_neg (Nat.not_lt.mpr hshort)]
  · rfl

/-- Where a path behind the directory of the package stops to be there. -/
theorem advance_rolesMade {n : Text} (hn : IsPlainName n)
    (hshort : n.byteSize ≤ FileTree.nameLimit) (names : List Text) :
    rolesMade.advance rolesMade.current (("prisma_pydantic" : Text) :: n :: names)
      = .ok (rolesDirectory, n :: names) := by
  obtain ⟨hchild, hnone⟩ := rolesMade_new hn hshort
  have hdirectory : rolesMade.child rolesMade.current "prisma_pydantic" = .ok rolesDirectory := by
    rfl
  have hthere : (rolesMade.lookup? rolesDirectory).isSome = true := by decide
  unfold FileTree.advance
  rw [hdirectory]
  dsimp only
  rw [if_pos hthere]
  unfold FileTree.advance
  rw [hchild]
  dsimp only
  rw [hnone]
  rfl

/-- By its path from the current directory, the package gets the directory of the detours. -/
theorem generateFrom_detouredPath :
    (generateFrom rolesDocument (generationSettings "prisma_pydantic" detouredModule)
      rolesTree).tree.lookup? (rolesDirectory.child (.ofList aside)) = some .directory := by
  have hmade : rolesTree.makeDirectories (.ofString "prisma_pydantic") = (rolesMade, .ok ()) := by
    rfl
  have hparent : ((Path.ofString "prisma_pydantic").join
      (.ofString (Package.fileName detouredModule))).parent = detouredPath := by
    rw [parent_detouredModule]
    rfl
  have hfirst : (rolesMade.makeDirectories detouredPath).1.lookup?
      (rolesDirectory.child (.ofList aside)) = some .directory := by
    have hshort : (Text.ofList aside).byteSize ≤ FileTree.nameLimit := by
      rw [aside_size]
      decide
    obtain ⟨hchild, hnone⟩ := rolesMade_new aside_isPlainName hshort
    exact FileTree.makeDirectories_first checkPath_detouredPath
      (advance_rolesMade aside_isPlainName hshort _) hchild hnone (by decide)
  obtain ⟨text, r, htree⟩ := generateFrom_roles (by decide) hmade
  have hkept := Package.writeFiles_made true (.ofString "prisma_pydantic") rolesMade
    (Package.fileName detouredModule, text) r
  rw [hparent] at hkept
  rw [htree]
  exact hkept.directory _ hfirst

/-- By its path from the root, it does not even get that. -/
theorem generateFrom_detouredFullPath {s : Text} (hs : s ≠ "")
    (hfull : Path.ofString s = { anchor := .root, names := ["work", "prisma_pydantic"] }) :
    (generateFrom rolesDocument (generationSettings s detouredModule) rolesTree).tree
      = rolesMade := by
  have hmade : rolesTree.makeDirectories (.ofString s) = (rolesMade, .ok ()) := by
    rw [hfull]
    rfl
  have hparent : ((Path.mk .root ["work", "prisma_pydantic"]).join
      (.ofString (Package.fileName detouredModule))).parent = detouredFullPath := by
    rw [parent_detouredModule]
    rfl
  obtain ⟨e, he⟩ := checkPath_detouredFullPath
  obtain ⟨text, r, htree⟩ := generateFrom_roles hs hmade
  rw [← hparent] at he
  rw [htree, hfull]
  exact Package.writeFiles_stops (f := (Package.fileName detouredModule, text))
    (FileTree.makeDirectories_refused he) r

end ModelBindings
