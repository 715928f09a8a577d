import Blueprint.Command.Run
import Blueprint.Proofs.Acceptance
import Blueprint.Proofs.Names
import Blueprint.Proofs.OptionsReading

/-!
# Runs

A run is all or nothing. What it is to write is settled by the two input files and the arguments
before anything is written, the options first, and a run that fails changes nothing. A run that
succeeds prints the text, or leaves every file but the one that it writes as it was. That file may
be one that has been read, and several paths may lead to it. Which paths lead to a file that can be
read or written is up to the system.
-/
namespace Blueprint.Command

variable {d : FileSystem} {a : Arguments} {order order' : StartOrder}

/-! ## What is settled before anything is written -/

/-- The options in force for a run, or why there are none. An argument counts for more than the file
of options, but does not make up for a faulty one. -/
inductive InForce (d : FileSystem) (a : Arguments) : Except Failure Options → Prop
  | unconfigured (hconfig : a.config = none) : InForce d a (.ok ⟨a.nestedCreations.getD false⟩)
  | unreadable {path : String} {fault : FileFault} (hconfig : a.config = some path)
      (hread : d.read path = .error fault) : InForce d a (.error (.unreadable path fault))
  | refused {path text : String} {fault : Json.Fault} (hconfig : a.config = some path)
      (hread : d.read path = .ok text) (htext : Options.ofJson text = .error fault) :
      InForce d a (.error (.rejected (.options fault)))
  | configured {path text : String} {o : Options} (hconfig : a.config = some path)
      (hread : d.read path = .ok text) (htext : Options.Written text.toList o) :
      InForce d a (.ok ⟨a.nestedCreations.getD o.nestedCreations⟩)

/-- The text that a run is to write, or why there is none. -/
inductive Settles (d : FileSystem) (a : Arguments) (order : StartOrder) :
    Except Failure String → Prop
  | misconfigured {failure : Failure} (hoptions : InForce d a (.error failure)) :
      Settles d a order (.error failure)
  | unreadable {o : Options} {fault : FileFault} (hoptions : InForce d a (.ok o))
      (hread : d.read a.model = .error fault) :
      Settles d a order (.error (.unreadable a.model fault))
  | refused {o : Options} {text : String} {fault : Json.Fault} (hoptions : InForce d a (.ok o))
      (hread : d.read a.model = .ok text) (htext : Model.ofJson text = .error fault) :
      Settles d a order (.error (.rejected (.model fault)))
  | invalid {o : Options} {text : String} {m : Model} {defect : Defect}
      (hoptions : InForce d a (.ok o)) (hread : d.read a.model = .ok text)
      (htext : Model.ofJson text = .ok m) (hcompile : m.compile o order = .error defect) :
      Settles d a order (.error (.rejected (.invalid defect)))
  | compiled {o : Options} {text : String} {m : Model} {k : Compiled}
      (hoptions : InForce d a (.ok o)) (hread : d.read a.model = .ok text)
      (htext : Model.ofJson text = .ok m) (hcompile : m.compile o order = .ok k) :
      Settles d a order (.ok (a.format.render k))

variable {o : Except Failure Options} {result : Except Failure String}

lemma options_eq_of_config {path text : String} (hconfig : a.config = some path)
    (hread : d.read path = .ok text) :
    a.options d.read =
      (Options.ofText (some text) a.nestedCreations).mapError Failure.rejected := by
  rw [Arguments.options, Arguments.loadOptions, hconfig, Option.mapM_some, Arguments.input, hread]
  rfl

lemma InForce.options_eq (h : InForce d a o) : a.options d.read = o := by
  cases h with
  | unconfigured hconfig =>
    rw [Arguments.options, Arguments.loadOptions, hconfig]
    rfl
  | unreadable hconfig hread =>
    rw [Arguments.options, Arguments.loadOptions, hconfig, Option.mapM_some, Arguments.input, hread]
    rfl
  | refused hconfig hread htext =>
    rw [options_eq_of_config hconfig hread, Options.ofText, htext]
    rfl
  | configured hconfig hread htext =>
    rw [options_eq_of_config hconfig hread, Options.ofText, Options.ofJson_eq_ok_iff.2 htext]
    rfl

lemma exists_inForce (d : FileSystem) (a : Arguments) : ∃ o, InForce d a o := by
  cases hconfig : a.config with
  | none => exact ⟨_, .unconfigured hconfig⟩
  | some path =>
    cases hread : d.read path with
    | error fault => exact ⟨_, .unreadable hconfig hread⟩
    | ok text =>
      cases htext : Options.ofJson text with
      | error fault => exact ⟨_, .refused hconfig hread htext⟩
      | ok o => exact ⟨_, .configured hconfig hread (Options.ofJson_eq_ok_iff.1 htext)⟩

/-- Without options in force nothing else is read. -/
lemma result_eq_of_options_error {failure : Failure} (h : a.options d.read = .error failure) :
    a.result d.read order = .error failure := by
  rw [Arguments.options] at h
  rw [Arguments.result, Arguments.load, ExceptT.run_bind, h]
  rfl

lemma result_eq_of_options {o : Options} (h : a.options d.read = .ok o) :
    a.result d.read order = (d.read a.model).mapError (.unreadable a.model) >>= fun text =>
      ((compileText o text order).mapError .rejected).map a.format.render := by
  rw [Arguments.options] at h
  rw [Arguments.result, Arguments.load, ExceptT.run_bind, h]
  change (Arguments.input (M := Id) d.read a.model >>= fun text => _).run = _
  rw [Arguments.input]
  cases d.read a.model with
  | error fault => rfl
  | ok text =>
    change (ExceptT.mk (pure ((compileText o text order).mapError .rejected)) >>= fun k =>
      pure (a.format.render k) : ExceptT Failure Id String).run =
        ((compileText o text order).mapError .rejected).map a.format.render
    cases (compileText o text order).mapError Failure.rejected with
    | error failure => rfl
    | ok k => rfl

lemma Settles.result_eq (h : Settles d a order result) : a.result d.read order = result := by
  cases h with
  | misconfigured hoptions => exact result_eq_of_options_error hoptions.options_eq
  | unreadable hoptions hread =>
    rw [result_eq_of_options hoptions.options_eq, hread]
    rfl
  | refused hoptions hread htext =>
    rw [result_eq_of_options hoptions.options_eq, hread]
    simp only [compileText, Model.ofText, htext, bind, Except.bind, Except.mapError, Except.map]
  | invalid hoptions hread htext hcompile =>
    rw [result_eq_of_options hoptions.options_eq, hread]
    simp only [compileText, Model.ofText, htext, hcompile, bind, Except.bind, Except.mapError,
      Except.map]
  | compiled hoptions hread htext hcompile =>
    rw [result_eq_of_options hoptions.options_eq, hread]
    simp only [compileText, Model.ofText, htext, hcompile, bind, Except.bind, Except.mapError,
      Except.map]

theorem exists_settles (d : FileSystem) (a : Arguments) (order : StartOrder) :
    ∃ result, Settles d a order result := by
  obtain ⟨o, hoptions⟩ := exists_inForce d a
  cases o with
  | error failure => exact ⟨_, .misconfigured hoptions⟩
  | ok o =>
    cases hread : d.read a.model with
    | error fault => exact ⟨_, .unreadable hoptions hread⟩
    | ok text =>
      cases htext : Model.ofJson text with
      | error fault => exact ⟨_, .refused hoptions hread htext⟩
      | ok m =>
        cases hcompile : m.compile o order with
        | error defect => exact ⟨_, .invalid hoptions hread htext hcompile⟩
        | ok k => exact ⟨_, .compiled hoptions hread htext hcompile⟩

theorem Settles.unique {other : Except Failure String} (h : Settles d a order result)
    (h' : Settles d a order other) : result = other := h.result_eq.symm.trans h'.result_eq

/-- In whatever order cycles are looked for, the same text is to be written. -/
lemma Settles.anyOrder {text : String} (h : Settles d a order (.ok text)) :
    Settles d a order' (.ok text) := by
  cases h with
  | compiled hoptions hread htext hcompile =>
    exact .compiled hoptions hread htext
      (Model.compile_eq_ok_iff.2 (Model.compile_eq_ok_iff.1 hcompile))

/-! ## What reading leaves as it was -/

section Reading

variable {α β : Type} {w : World} {x : ExceptT Failure (StateM World) α}
  {y : ExceptT Failure Id α}

/-- What is done in a world comes to what would be done if its files could only be read, and leaves
the world as it is. -/
def Follows (w : World) (x : ExceptT Failure (StateM World) α) (y : ExceptT Failure Id α) : Prop :=
  x.run.run w = (y.run, w)

lemma follows_result (w : World) (e : Except Failure α) : Follows w (.mk (pure e)) (.mk (pure e)) :=
  rfl

lemma Follows.bind {f : α → ExceptT Failure (StateM World) β} {g : α → ExceptT Failure Id β}
    (h : Follows w x y) (hf : ∀ a, Follows w (f a) (g a)) : Follows w (x >>= f) (y >>= g) := by
  change (match x.run.run w with | (e, w') => (ExceptT.bindCont f e).run w') =
    ((ExceptT.bindCont g y.run : Id (Except Failure β)), w)
  rw [h]
  cases y.run with
  | error failure => rfl
  | ok a => exact hf a

lemma follows_input (w : World) (path : String) :
    Follows w (Arguments.input World.surroundings.read path)
      (Arguments.input (M := Id) w.system.read path) := rfl

lemma follows_loadOptions (w : World) (a : Arguments) :
    Follows w (a.loadOptions World.surroundings.read) (a.loadOptions (M := Id) w.system.read) := by
  refine Follows.bind ?_ fun text => follows_result w _
  cases a.config with
  | none => rfl
  | some path => exact (follows_input w path).bind fun text => rfl

lemma follows_load (w : World) (a : Arguments) (order : StartOrder) :
    Follows w (a.load World.surroundings.read order) (a.load (M := Id) w.system.read order) :=
  (follows_loadOptions w a).bind fun _ => (follows_input w a.model).bind fun _ =>
    (follows_result w _).bind fun _ => follows_result w _

end Reading

/-! ## Writing a file -/

lemma fromUTF8?_toUTF8 (text : String) : String.fromUTF8? text.toUTF8 = some text := by
  rw [String.toUTF8_eq_toByteArray, String.fromUTF8?, dif_pos text.isValidUTF8]
  rfl

namespace FileSystem

variable {name path text : String}

lemma write_eq_ok (h : d.target path = .ok name) :
    d.write path text = .ok (d.holding name text) := by
  rw [write, h]
  rfl

lemma write_eq_error {fault : FileFault} (h : d.target path = .error fault) :
    d.write path text = .error fault := by
  rw [write, h]
  rfl

lemma get?_holding (d : FileSystem) (name text other : String) :
    (d.holding name text).files.get? other =
      if other = name then some text.toUTF8 else d.files.get? other :=
  NameTable.get?_insert ..

/-- The text can be read at each path that leads to the file in which it stands. -/
lemma read_holding (h : d.source path = .ok name) : (d.holding name text).read path = .ok text := by
  have hsource : (d.holding name text).source path = .ok name := h
  have hget : (d.holding name text).files.get? name = some text.toUTF8 := by
    rw [get?_holding, if_pos rfl]
  simp only [read, hsource, hget, fromUTF8?_toUTF8, bind, Except.bind]

end FileSystem

/-! ## What a run does -/

variable {failure : Failure} {text path : String}

lemma load_eq (h : a.result d.read order = result) :
    (a.load World.surroundings.read order).run.run ⟨d, ""⟩ = (result, ⟨d, ""⟩) :=
  h ▸ follows_load ⟨d, ""⟩ a order

lemma run_eq_of_result_eq (h : a.result d.read order = a.result d.read order') :
    run d a order = run d a order' := by
  rw [run, run, Arguments.perform, Arguments.perform, StateT.run_bind, StateT.run_bind,
    load_eq rfl, load_eq rfl, h]

lemma run_eq_of_error (h : a.result d.read order = .error failure) :
    run d a order = ⟨⟨d, ""⟩, some failure⟩ := by
  rw [run, Arguments.perform, StateT.run_bind, load_eq h]
  rfl

/-- A text that has been loaded is delivered, in the world as it was. -/
lemma run_eq_of_deliver {w : World} {failure : Option Failure}
    (h : a.result d.read order = .ok text)
    (hdeliver : (a.deliver World.surroundings text).run ⟨d, ""⟩ = (failure, w)) :
    run d a order = ⟨w, failure⟩ := by
  rw [run, Arguments.perform, StateT.run_bind, load_eq h]
  change Outcome.mk ((a.deliver World.surroundings text).run ⟨d, ""⟩).2
    ((a.deliver World.surroundings text).run ⟨d, ""⟩).1 = _
  rw [hdeliver]

lemma run_eq_of_printed (h : a.result d.read order = .ok text) (hout : a.output = none) :
    run d a order = ⟨⟨d, text ++ "\n"⟩, none⟩ := by
  refine run_eq_of_deliver h ?_
  rw [Arguments.deliver, hout]
  change (none, World.mk d ("" ++ (text ++ "\n"))) = _
  rw [String.empty_append]

lemma run_eq_of_written {written : FileSystem} (h : a.result d.read order = .ok text)
    (hout : a.output = some path) (hwrite : d.write path text = .ok written) :
    run d a order = ⟨⟨written, ""⟩, none⟩ := by
  refine run_eq_of_deliver h ?_
  have hworld : (World.surroundings.write path text).run ⟨d, ""⟩ = (.ok (), ⟨written, ""⟩) := by
    change World.write path text ⟨d, ""⟩ = _
    simp only [World.write, hwrite]
  rw [Arguments.deliver, hout]
  dsimp only
  rw [StateT.run_bind, hworld]
  rfl

lemma run_eq_of_unwritten {fault : FileFault} (h : a.result d.read order = .ok text)
    (hout : a.output = some path) (hwrite : d.write path text = .error fault) :
    run d a order = ⟨⟨d, ""⟩, some (.unwritable fault)⟩ := by
  refine run_eq_of_deliver h ?_
  have hworld : (World.surroundings.write path text).run ⟨d, ""⟩ = (.error fault, ⟨d, ""⟩) := by
    change World.write path text ⟨d, ""⟩ = _
    simp only [World.write, hwrite]
  rw [Arguments.deliver, hout]
  dsimp only
  rw [StateT.run_bind, hworld]
  rfl

/-! ## All or nothing -/

/-- What a run has written if it has written a text into a file. -/
structure Wrote (d : FileSystem) (name text : String) (out : Outcome) : Prop where
  succeeded : out.failure = none
  printed : out.printed = ""
  holds : out.system.files.get? name = some text.toUTF8
  others : ∀ other, other ≠ name → out.system.files.get? other = d.files.get? other
  sources : out.system.source = d.source
  targets : out.system.target = d.target
  reads : ∀ path, d.source path = .ok name → out.system.read path = .ok text

/-- What may become of a run. -/
structure AllOrNothing (d : FileSystem) (a : Arguments) (order : StartOrder) : Prop where
  settled : ∃! result, Settles d a order result
  misconfigured : ∀ failure, InForce d a (.error failure) →
    run d a order = ⟨⟨d, ""⟩, some failure⟩
  failed : ∀ failure, Settles d a order (.error failure) →
    run d a order = ⟨⟨d, ""⟩, some failure⟩
  printed : ∀ text, Settles d a order (.ok text) → a.output = none →
    run d a order = ⟨⟨d, text ++ "\n"⟩, none⟩
  written : ∀ text, Settles d a order (.ok text) → ∀ path, a.output = some path →
    ∀ name, d.target path = .ok name → Wrote d name text (run d a order)
  unwritten : ∀ text, Settles d a order (.ok text) → ∀ path, a.output = some path →
    ∀ fault, d.target path = .error fault →
      run d a order = ⟨⟨d, ""⟩, some (.unwritable fault)⟩
  /-- In whatever order cycles are looked for, a run leaves the same behind. -/
  anyOrder : ∀ order', (run d a order').toWorld = (run d a order).toWorld

lemma Settles.run_failed (h : Settles d a order (.error failure)) :
    run d a order = ⟨⟨d, ""⟩, some failure⟩ := run_eq_of_error h.result_eq

lemma Settles.toWorld_anyOrder (h : Settles d a order result) (order' : StartOrder) :
    (run d a order').toWorld = (run d a order).toWorld := by
  cases result with
  | ok text =>
    have h' : Settles d a order' (.ok text) := h.anyOrder
    rw [run_eq_of_result_eq (h.result_eq.trans h'.result_eq.symm)]
  | error failure =>
    obtain ⟨other, h'⟩ := exists_settles d a order'
    cases other with
    | ok text => exact absurd (h.unique h'.anyOrder) (by simp)
    | error failure' => rw [h.run_failed, h'.run_failed]

/-- A run fails and changes nothing, or it does all that it is to do. -/
theorem run_all_or_nothing (d : FileSystem) (a : Arguments) (order : StartOrder) :
    AllOrNothing d a order := by
  obtain ⟨result, hresult⟩ := exists_settles d a order
  constructor
  case settled => exact ⟨result, hresult, fun other h => h.unique hresult⟩
  case misconfigured => exact fun failure h => (Settles.misconfigured h).run_failed
  case failed => exact fun failure h => h.run_failed
  case printed => exact fun text h hout => run_eq_of_printed h.result_eq hout
  case written =>
    -- the text is settled by the files as they were, whichever of them is written
    intro text h path hout name hname
    have hrun : run d a order = ⟨⟨d.holding name text, ""⟩, none⟩ :=
      run_eq_of_written h.result_eq hout (FileSystem.write_eq_ok hname)
    rw [hrun]
    constructor
    case succeeded => rfl
    case printed => rfl
    case holds => rw [FileSystem.get?_holding, if_pos rfl]
    case others => exact fun other hne => by rw [FileSystem.get?_holding, if_neg hne]
    case sources => rfl
    case targets => rfl
    case reads => exact fun path hpath => FileSystem.read_holding hpath
  case unwritten =>
    exact fun text h path hout fault hfault =>
      run_eq_of_unwritten h.result_eq hout (FileSystem.write_eq_error hfault)
  case anyOrder => exact hresult.toWorld_anyOrder

end Blueprint.Command
