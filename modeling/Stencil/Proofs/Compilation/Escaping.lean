import Stencil.Proofs.Compilation.Correctness
import Stencil.Proofs.Meaning.Escaping

/-!
# Output without markup

Code of templates that bring in no markup prints none, whatever it is given, loads and calls, as
long as no raw text that it is given has some.
-/

namespace Stencil

/-- A tree and code that come from one text, where the tree brings in no markup. -/
def FromEscapingText (template : Template) (code : Code) : Prop :=
  FromText (fun _ => True) template code ∧ template.Escaping

theorem exists_fromEscapingText {text : Machine.Text} {optimize : Bool} {name : String}
    {code : Code} (escaping : ∃ template, text.Parses name template ∧ template.Escaping)
    (compiled : text.compile optimize name = .ok code) :
    ∃ template, FromEscapingText template code := by
  obtain ⟨template, parses, escaping⟩ := escaping
  exact ⟨template, ⟨text, optimize, name, trivial, parses, compiled⟩, escaping⟩

/-- Whether the tree of a text brings in markup can be checked. -/
theorem exists_escaping {text : Machine.Text} {name : String}
    (checked : (Template.parse text.dialect name text.content).toOption.any (fun template =>
      decide template.Escaping) = true) :
    ∃ template, text.Parses name template ∧ template.Escaping := by
  cases parsed : Template.parse text.dialect name text.content with
  | error problem =>
      rw [parsed] at checked
      cases checked
  | ok template =>
      rw [parsed] at checked
      exact ⟨template, parsed, of_decide_eq_true checked⟩

namespace Machine

variable {σ : Type} {holds : σ → Prop} {store after : σ} {report : Report}

/-- With any library that makes no raw text with markup, what a run printed up to its end has
none. -/
theorem harmless_of_ends {environment : Environment σ} {template : Template} {code : Code}
    (sound : environment.library.Harmless)
    (given : ∀ entry ∈ environment.«variables», entry.2.Harmless)
    (paired : ∀ load ∈ environment.loader, Paired FromEscapingText holds load)
    (source : FromEscapingText template code) (held : holds store)
    (ends : Ends environment code store report after) : Text.Harmless report.output.toList := by
  -- each code that is loaded stands for a tree of its text, so the run is a rendering of such trees
  let surroundings : Meaning.Surroundings σ :=
    ⟨environment.library, environment.limits,
      environment.loader.map (treesPaired FromEscapingText), environment.«variables»⟩
  have guarded : Meaning.Guarded surroundings none := by
    refine ⟨sound, given, ?_, nofun⟩
    intro find present name store template after found
    obtain ⟨load, _, rfl⟩ := Option.map_eq_some_iff.mp present
    exact of_treesPaired (fun _ _ source => source.2) nofun found
  have loads := (loads_of_paired paired).mono fun _ _ source => source.1.built
  obtain ⟨rounds, _, rendered, _⟩ :=
    @render_of_ends _ _ surroundings _ _ _ _ store _ _ _ source.1.built loads ⟨rfl, held⟩ ends
  exact Meaning.harmless_render guarded source.2 rendered

/-- With the built-in functions, code compiled from a text that brings in no markup prints none,
whether it finishes or fails. -/
theorem output_harmless {text : Text} {optimize : Bool} {name : String} {template : Template}
    {code : Code} {limits : Limits} {loader : Option (Loader σ)} {given : Dictionary Value}
    (parses : text.Parses name template) (escaping : template.Escaping)
    (compiled : text.compile optimize name = .ok code)
    (paired : ∀ load ∈ loader, Paired FromEscapingText holds load)
    (harmless : ∀ entry ∈ given, entry.2.Harmless) (held : holds store)
    (ends : Ends ⟨.builtins, limits, loader, given⟩ code store report after) :
    Text.Harmless report.output.toList := by
  have stems : FromEscapingText template code :=
    ⟨⟨text, optimize, name, trivial, parses, compiled⟩, escaping⟩
  exact harmless_of_ends Library.harmless_builtins harmless paired stems held ends

/-- A notice with markup in the texts that it is given, in a frame that fails. -/
def notice : Text where
  dialect := .standard
  now := ⟨0⟩
  content := "[% MACRO em(x) BLOCK %]*[% x %]*[% END %]" ++
    "[% WRAPPER 'frame' WITH title = name %][% em('<b>') %] [% trusted | upper %][% END %]"
  short := by decide +kernel

def frame : Text where
  dialect := .standard
  now := ⟨0⟩
  content := "[% title %]: [% content %][% INCLUDE 'missing' %]"

def frames : Texts Unit := fun name store =>
  if name = "frame" then (.ok frame, store) else (.error (.load (.notFound name)), store)

def noticeVars : Dictionary Value :=
  [("name", .text "<i>"), ("trusted", .raw "&amp; more")]

theorem notice_output_harmless :
    ∃ template code report,
      notice.Parses "notice" template ∧ template.Escaping ∧
      notice.compile true "notice" = .ok code ∧
      Ends ⟨.builtins, .standard, some (loaderOf true frames), noticeVars⟩ code () report () ∧
      report.output = "&lt;i&gt;: *&lt;b&gt;* &AMP; MORE" ∧
      Text.Harmless report.output.toList := by
  have escaping : ∃ template, notice.Parses "notice" template ∧ template.Escaping :=
    exists_escaping (by decide +kernel)
  have paired : ∀ load ∈ some (loaderOf true frames),
      Paired FromEscapingText (fun _ => True) load := by
    intro load found
    obtain rfl := Option.some.inj found
    refine paired_of_texts true frames ?_
    intro name store text after code found made
    unfold frames at found
    split at found
    · next same =>
        cases found
        subst same
        exact exists_fromEscapingText (exists_escaping (by decide +kernel)) made
    · cases found
  have harmless : ∀ entry ∈ noticeVars, entry.2.Harmless := by
    refine List.forall_mem_cons.mpr ⟨.text _, List.forall_mem_singleton.mpr (.raw ?_)⟩
    decide
  have ran : ((notice.compile true "notice").toOption.map fun code =>
      (runFor ⟨.builtins, .standard, some (loaderOf true frames), noticeVars⟩ 300
        (start code ())).report) =
      some ⟨.failed (.load (.notFound "missing")), "&lt;i&gt;: *&lt;b&gt;* &AMP; MORE", []⟩ := by
    decide +kernel
  obtain ⟨template, parses, escaping⟩ := escaping
  cases made : notice.compile true "notice" with
  | error failure =>
      rw [made] at ran
      cases ran
  | ok code =>
      rw [made] at ran
      have shown := Option.some.inj ran
      have ends : Ends ⟨.builtins, .standard, some (loaderOf true frames), noticeVars⟩ code ()
          ⟨.failed (.load (.notFound "missing")), "&lt;i&gt;: *&lt;b&gt;* &AMP; MORE", []⟩ () := by
        refine ⟨300, ?_, shown, rfl⟩
        intro unfinished
        exact nomatch unfinished.symm.trans (congrArg Report.ending shown)
      exact ⟨template, code, _, parses, escaping, rfl, ends, rfl,
        output_harmless parses escaping made paired harmless trivial ends⟩

end Machine

end Stencil
