import ColorSpans.Config
import ColorSpans.DataFolder.Library
import ColorSpans.Proofs.Outcome
import Mathlib.Logic.Function.Basic

/-! The default options under temporary data folders. They are read once, and stay those of the
folder that was in effect then. -/
namespace ColorSpans

/-- Ways to ask for the default options: as they are, or for a configuration with options on top of
them. -/
inductive OptionCall
  | defaults
  | config (options : Options) (hostNames : Option HostNames)

inductive OptionReply
  | options (options : Options)
  | config (outcome : Except OptionError Config)

def OptionCall.reply (call : OptionCall) (defaults : Options) : OptionReply :=
  match call with
  | .defaults => .options defaults
  | .config options hostNames => .config (Config.ofOptions defaults options hostNames)

/-- Calls, and blocks in which another folder is in effect. -/
inductive Script
  | done
  | call (call : OptionCall) (rest : Script)
  | block (folder : String) (body rest : Script)

namespace Library

def reply (lib : Library) (call : OptionCall) : Except DocumentError OptionReply × Library :=
  let (outcome, lib) := lib.defaultOptions
  (outcome.map call.reply, lib)

/-- Follows a script, and tells what its calls were answered. -/
def follow (lib : Library) : Script → List (Except DocumentError OptionReply) × Library
  | .done => ([], lib)
  | .call call rest =>
      let (outcome, lib) := lib.reply call
      let (outcomes, lib) := lib.follow rest
      (outcome :: outcomes, lib)
  | .block folder body rest =>
      let (inner, lib) := (lib.enter folder).follow body
      let (outer, lib) := lib.leave.follow rest
      (inner ++ outer, lib)

/-- The calls of a script, each with the folder in effect: that of the innermost block around it. -/
def calls (lib : Library) : Script → List (String × OptionCall)
  | .done => []
  | .call call rest => (lib.folder, call) :: lib.calls rest
  | .block folder body rest => (lib.enter folder).calls body ++ lib.calls rest

def optionsIn (tree : FileTree) (folder : String) : Except DocumentError Options :=
  (new tree folder).defaultOptions.1

variable {lib : Library}

structure SameFolders (lib lib' : Library) : Prop where
  tree : lib'.tree = lib.tree
  packaged : lib'.packaged = lib.packaged
  own : lib'.own = lib.own
  shared : lib'.shared = lib.shared
  replaced : lib'.replaced = lib.replaced

namespace SameFolders

variable {a b c : Library}

theorem trans (h : SameFolders a b) (h' : SameFolders b c) : SameFolders a c :=
  ⟨h'.tree.trans h.tree, h'.packaged.trans h.packaged, h'.own.trans h.own, h'.shared.trans h.shared,
    h'.replaced.trans h.replaced⟩

theorem folder (h : SameFolders a b) : b.folder = a.folder := by
  rw [Library.folder, Library.folder, h.own, h.shared, h.packaged]

theorem enter (h : SameFolders a b) (folder : String) :
    SameFolders (a.enter folder) (b.enter folder) :=
  ⟨h.tree, h.packaged, rfl, h.shared, by
    rw [Library.enter, Library.enter, forget, forget, h.own, h.replaced]⟩

theorem leave {folder : String} (h : SameFolders (a.enter folder) b) : SameFolders a b.leave := by
  have own : b.replaced = a.own :: a.replaced := h.replaced
  rw [Library.leave, own]
  exact ⟨h.tree, h.packaged, rfl, h.shared, rfl⟩

theorem calls (h : SameFolders a b) (script : Script) : b.calls script = a.calls script := by
  induction script generalizing a b with
  | done => rfl
  | call call rest ih => rw [Library.calls, Library.calls, h.folder, ih h]
  | block folder body rest inner outer =>
      rw [Library.calls, Library.calls, inner (h.enter folder), outer h]

end SameFolders

theorem mode_of_findFile {tree : FileTree} {folder : String} {request : LoadRequest}
    {key : DocumentKey} {bytes : List UInt8}
    (found : findFile tree folder request = .ok (key, bytes)) : key.mode = request.mode := by
  simp only [findFile] at found
  split at found
  · cases found
  · split at found
    · cases found
    · obtain ⟨same, -⟩ := Prod.mk.inj (Except.ok.inj found)
      rw [← same]

theorem loadDocument_validated (tree : FileTree) (kept : Documents) (folder : String)
    {request : LoadRequest} (mode : request.mode = .object) (validate : Validator) :
    loadDocument tree kept folder request (some validate) =
      ((loadDocument tree [] folder request (some validate)).1, kept) := by
  unfold loadDocument
  generalize same : findFile tree folder request = found
  cases found with
  | error e => rfl
  | ok file =>
    obtain ⟨key, bytes⟩ := file
    have mode : key.mode = .object := (mode_of_findFile same).trans mode
    simp only [Option.isNone_some, Bool.false_eq_true, if_false]
    cases readFound key bytes (some validate) with
    | error e => rfl
    | ok document => simp [mode]

theorem loadChecked_eq (lib : Library) (file : String) (relaxed : Bool) (validate : Validator) :
    lib.loadChecked file relaxed validate =
      ((loadDocument lib.tree [] lib.folder ⟨file, .object, none, "utf-8", relaxed⟩
        (some validate)).1.map
        LoadedDocument.document, lib) := by
  rw [loadChecked, load]
  simp only [Option.getD_none]
  rw [loadDocument_validated lib.tree lib.kept lib.folder rfl validate]

theorem object_of_readFound {key : DocumentKey} (mode : key.mode = .object) {bytes : List UInt8}
    {validate : Validator} {document : Json}
    (done : readFound key bytes (some validate) = .ok document) :
    ∃ members, document = .obj members := by
  obtain ⟨read, -, rest⟩ := bind_eq_ok.1 done
  obtain ⟨checked, allowed, rest⟩ := bind_eq_ok.1 rest
  rw [mode] at allowed rest
  cases read with
  | obj members =>
    obtain rfl := Except.ok.inj allowed
    cases passed : validate members with
    | error reason =>
      simp only [passed] at rest
      cases rest
    | ok members' =>
      simp only [passed] at rest
      exact ⟨members', (Except.ok.inj rest).symm⟩
  | _ => cases allowed

theorem object_of_loadDocument {tree : FileTree} {kept : Documents} {folder : String}
    {request : LoadRequest} (mode : request.mode = .object) {validate : Validator}
    {loaded : LoadedDocument}
    (done : (loadDocument tree kept folder request (some validate)).1 = .ok loaded) :
    ∃ members, loaded.document = .obj members := by
  unfold loadDocument at done
  generalize same : findFile tree folder request = found at done
  cases found with
  | error e => cases done
  | ok file =>
    obtain ⟨key, bytes⟩ := file
    have mode : key.mode = .object := (mode_of_findFile same).trans mode
    simp only [Option.isNone_some, Bool.false_eq_true, if_false] at done
    cases read : readFound key bytes (some validate) with
    | error e =>
      rw [read] at done
      cases done
    | ok document =>
      rw [read] at done
      obtain rfl := Except.ok.inj done
      exact object_of_readFound mode read

theorem defaultOptions_loaded {options : Options} (loaded : lib.options = some options) :
    lib.defaultOptions = (.ok options, lib) := by rw [defaultOptions, loaded]

theorem defaultOptions_unloaded (unloaded : lib.options = none) :
    lib.defaultOptions.1 = optionsIn lib.tree lib.folder ∧
      ∀ options, lib.defaultOptions.1 = .ok options →
        lib.defaultOptions.2 = { lib with options := some options } := by
  have here : (new lib.tree lib.folder).folder = lib.folder := rfl
  rw [optionsIn, defaultOptions, unloaded, defaultOptions, loadChecked_eq, loadChecked_eq, here]
  cases outcome :
      (loadDocument lib.tree [] lib.folder ⟨"default_options", .object, none, "utf-8", true⟩
      (some validateOptions)).1 with
  | error e =>
    have read : (loadDocument (new lib.tree lib.folder).tree [] lib.folder
        ⟨"default_options", .object, none, "utf-8", true⟩ (some validateOptions)).1 = .error e :=
      outcome
    rw [read]
    exact ⟨rfl, nofun⟩
  | ok loaded =>
    have read : (loadDocument (new lib.tree lib.folder).tree [] lib.folder
        ⟨"default_options", .object, none, "utf-8", true⟩ (some validateOptions)).1 = .ok loaded :=
      outcome
    obtain ⟨members, object⟩ := object_of_loadDocument rfl outcome
    obtain ⟨document, kept⟩ := loaded
    subst object
    rw [read]
    refine ⟨rfl, fun options same => ?_⟩
    obtain rfl := Except.ok.inj same
    rfl

theorem sameFolders_defaultOptions (lib : Library) : SameFolders lib lib.defaultOptions.2 := by
  rw [defaultOptions, loadChecked_eq]
  split
  · exact ⟨rfl, rfl, rfl, rfl, rfl⟩
  · split <;> rename_i same <;> obtain ⟨-, rfl⟩ := Prod.mk.inj same
      <;> exact ⟨rfl, rfl, rfl, rfl, rfl⟩

theorem sameFolders_follow (lib : Library) (script : Script) :
    SameFolders lib (lib.follow script).2 := by
  induction script generalizing lib with
  | done => exact ⟨rfl, rfl, rfl, rfl, rfl⟩
  | call call rest ih => exact (sameFolders_defaultOptions lib).trans (ih _)
  | block folder body rest inner outer => exact (inner (lib.enter folder)).leave.trans (outer _)

@[simp] theorem options_leave (lib : Library) : lib.leave.options = lib.options := by
  unfold leave
  split <;> rfl

theorem follow_loaded {options : Options} (loaded : lib.options = some options) (script : Script) :
    (lib.follow script).1 = (lib.calls script).map (fun e => .ok (e.2.reply options)) ∧
      (lib.follow script).2.options = some options := by
  induction script generalizing lib with
  | done => exact ⟨rfl, loaded⟩
  | call call rest ih =>
    obtain ⟨replies, kept⟩ := ih loaded
    rw [follow, reply, defaultOptions_loaded loaded]
    exact ⟨congrArg _ replies, kept⟩
  | block folder body rest inner outer =>
    have back := (sameFolders_follow (lib.enter folder) body).leave
    have entered : (lib.enter folder).options = some options := loaded
    obtain ⟨within, kept⟩ := inner entered
    obtain ⟨after, kept'⟩ := outer ((options_leave _).trans kept)
    rw [back.calls] at after
    rw [follow, calls, List.map_append]
    exact ⟨congrArg₂ (· ++ ·) within after, kept'⟩

theorem follow_unloaded (unloaded : lib.options = none) (script : Script) :
    (lib.calls script = [] → (lib.follow script).1 = [] ∧ (lib.follow script).2.options = none) ∧
    ∀ first ∈ (lib.calls script).head?, ∀ options, optionsIn lib.tree first.1 = .ok options →
      (lib.follow script).1 = (lib.calls script).map (fun e => .ok (e.2.reply options)) ∧
        (lib.follow script).2.options = some options := by
  induction script generalizing lib with
  | done => exact ⟨fun _ => ⟨rfl, unloaded⟩, nofun⟩
  | call call rest ih =>
    refine ⟨nofun, fun first here options valid => ?_⟩
    obtain rfl := Option.some.inj here
    obtain ⟨read, kept⟩ := defaultOptions_unloaded unloaded
    have loaded : lib.defaultOptions = (.ok options, { lib with options := some options }) :=
      Prod.ext (read.trans valid) (kept options (read.trans valid))
    have same : SameFolders lib { lib with options := some options } := ⟨rfl, rfl, rfl, rfl, rfl⟩
    have given : ({ lib with options := some options } : Library).options = some options := rfl
    obtain ⟨replies, kept'⟩ := follow_loaded given rest
    rw [same.calls] at replies
    rw [follow, reply, loaded]
    exact ⟨congrArg _ replies, kept'⟩
  | block folder body rest inner outer =>
    have back := (sameFolders_follow (lib.enter folder) body).leave
    have entered : (lib.enter folder).options = none := unloaded
    obtain ⟨silent, within⟩ := inner entered
    rw [follow, calls]
    cases asked : (lib.enter folder).calls body with
    | nil =>
      obtain ⟨nothing, still⟩ := silent asked
      obtain ⟨silent', after⟩ := outer ((options_leave _).trans still)
      rw [back.calls, back.tree] at after
      rw [back.calls] at silent'
      simp only [nothing, List.nil_append]
      exact ⟨silent', after⟩
    | cons e more =>
      refine ⟨nofun, fun first here options valid => ?_⟩
      rw [asked] at within
      obtain ⟨replies, kept⟩ := within first here options valid
      obtain ⟨after, kept'⟩ := follow_loaded ((options_leave _).trans kept) rest
      rw [back.calls] at after
      rw [List.map_append]
      exact ⟨congrArg₂ (· ++ ·) replies after, kept'⟩

/-- Where all folders have valid options, every call is answered with those of the folder in effect
at it exactly if this is what the options of the folder in effect at the first call would have it
answered. -/
theorem follow_eq_iff (unloaded : lib.options = none) (script : Script)
    (valid : ∀ e ∈ lib.calls script, ∃ options, optionsIn lib.tree e.1 = .ok options) :
    (lib.follow script).1 =
        (lib.calls script).map (fun e => (optionsIn lib.tree e.1).map e.2.reply) ↔
      ∀ first ∈ (lib.calls script).head?, ∀ e ∈ lib.calls script,
        (optionsIn lib.tree first.1).map e.2.reply = (optionsIn lib.tree e.1).map e.2.reply := by
  obtain ⟨silent, answered⟩ := follow_unloaded unloaded script
  cases asked : lib.calls script with
  | nil => exact iff_of_true (silent asked).1 nofun
  | cons first rest =>
    rw [asked] at answered valid
    obtain ⟨options, read⟩ := valid first List.mem_cons_self
    rw [(answered first rfl options read).1, List.map_inj_left]
    simp only [List.head?_cons, Option.mem_def, Option.some.injEq, forall_eq', read]
    rfl

/-! Two folders: one with no options, and one that turns on `css`. -/

def plainText : List UInt8 := [123, 125]

def cssText : List UInt8 := [123, 34, 99, 115, 115, 34, 58, 116, 114, 117, 101, 125]

def twoFolders : FileTree :=
  (FileTree.empty.addFile "/data/default_options.json" plainText 1000).addFile
    "/own/default_options.json" cssText 1000

def opening : Library := new twoFolders "/data"

def cssOption : Options := [("css", .bool true)]

def switch? : Options → Option (Option (String × Bool))
  | [] => some none
  | [(name, .bool on)] => some (some (name, on))
  | _ => none

theorem eq_of_switch? {options : Options} {x : Option (String × Bool)}
    (read : switch? options = some x) :
    options = x.toList.map fun entry => (entry.1, .bool entry.2) := by
  unfold switch? at read
  split at read
  case h_1 =>
    cases read
    rfl
  case h_2 =>
    cases read
    rfl
  case h_3 => cases read

theorem optionsIn_twoFolders :
    optionsIn twoFolders "/data" = .ok [] ∧ optionsIn twoFolders "/own" = .ok cssOption := by
  have data : (optionsIn twoFolders "/data").toOption.bind switch? = some none := by decide +kernel
  have own : (optionsIn twoFolders "/own").toOption.bind switch? = some (some ("css", true)) := by
    decide +kernel
  obtain ⟨plain, found, read⟩ := Option.bind_eq_some_iff.1 data
  obtain ⟨options, found', read'⟩ := Option.bind_eq_some_iff.1 own
  rw [eq_ok_of_toOption found, eq_ok_of_toOption found', eq_of_switch? read, eq_of_switch? read']
  exact ⟨rfl, rfl⟩

def visiting : Script :=
  .call .defaults (.block "/own" (.call .defaults .done) (.call .defaults .done))

theorem calls_visiting : opening.calls visiting =
    [("/data", .defaults), ("/own", .defaults), ("/data", .defaults)] :=
  rfl

/-- The call in the block is not answered with the options of the block's folder. -/
theorem not_follow_visiting :
    (∀ e ∈ opening.calls visiting, ∃ options, optionsIn opening.tree e.1 = .ok options) ∧
    (opening.follow visiting).1 ≠
      (opening.calls visiting).map (fun e => (optionsIn opening.tree e.1).map e.2.reply) ∧
    (opening.follow visiting).1 = [.ok (.options []), .ok (.options []), .ok (.options [])] ∧
    (opening.calls visiting).map (fun e => (optionsIn opening.tree e.1).map e.2.reply) =
      [.ok (.options []), .ok (.options cssOption), .ok (.options [])] := by
  obtain ⟨data, own⟩ := optionsIn_twoFolders
  have tree : opening.tree = twoFolders := rfl
  have unloaded : opening.options = none := rfl
  obtain ⟨replies, -⟩ := (follow_unloaded unloaded visiting).2 ("/data", .defaults) rfl [] data
  rw [calls_visiting] at replies ⊢
  have anew : [("/data", OptionCall.defaults), ("/own", .defaults), ("/data", .defaults)].map
      (fun e => (optionsIn opening.tree e.1).map e.2.reply) =
        [.ok (.options []), .ok (.options cssOption), .ok (.options [])] := by
    simp only [List.map_cons, List.map_nil, tree, data, own]
    rfl
  refine ⟨?_, ?_, replies, anew⟩
  · simp only [List.forall_mem_cons, tree]
    exact ⟨⟨_, data⟩, ⟨_, own⟩, ⟨_, data⟩, nofun⟩
  · rw [anew, replies]
    nofun

def agreeing : Script :=
  .call (.config cssOption none)
    (.block "/own" (.call (.config cssOption none) .done) (.call .defaults .done))

theorem calls_agreeing : opening.calls agreeing =
    [("/data", .config cssOption none), ("/own", .config cssOption none), ("/data", .defaults)] :=
  rfl

theorem follow_agreeing :
    opening.options = none ∧
    (∀ e ∈ opening.calls agreeing, ∃ options, optionsIn opening.tree e.1 = .ok options) ∧
    (opening.follow agreeing).1 =
      (opening.calls agreeing).map (fun e => (optionsIn opening.tree e.1).map e.2.reply) := by
  obtain ⟨data, own⟩ := optionsIn_twoFolders
  have valid : ∀ e ∈ opening.calls agreeing,
      ∃ options, optionsIn opening.tree e.1 = .ok options := by
    rw [calls_agreeing]
    simp only [List.forall_mem_cons]
    exact ⟨⟨_, data⟩, ⟨_, own⟩, ⟨_, data⟩, nofun⟩
  refine ⟨rfl, valid, (follow_eq_iff rfl agreeing valid).2 ?_⟩
  rw [calls_agreeing]
  intro first here
  obtain rfl := Option.some.inj here
  have tree : opening.tree = twoFolders := rfl
  simp only [List.forall_mem_cons, tree, data, own]
  exact ⟨trivial, rfl, trivial, nofun⟩

end Library
end ColorSpans
