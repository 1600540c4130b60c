import Tailor.Proofs.Run.Crash
import Tailor.Proofs.Run.Source

/-! # Dry runs of one document

A dry run of a configuration that is reduced to one of its documents
(`Tailor.Run.Rehearses`) completes exactly if the source of the document is read and
processing makes something of its text (`Tailor.Run.rehearses_iff`).
-/

namespace Tailor.Run

variable {σ : Type} (world : World (σ × Files)) (options : Options) (config : Config)
  (document : DocumentConfig) (state : State σ)

/-- A run of the configuration that is reduced to one document completes without writing
it, and its processed form is a text. -/
structure Rehearses (content : Text) : Prop where
  completes : (from_ state (execute world options { config with documents := [document] })).1 =
    .ok [⟨document.source, document.target, .completed none⟩]
  processes : (from_ (state.noting (heading document))
    (processed world config.substitution document)).1 = .ok (.ok content)

variable {world options config document state}

/-- A document is processed if its source is read and its text is processed. -/
theorem processed_eq_ok {substitution : Substitution} {content : Text} :
    (from_ state (processed world substitution document)).1 = .ok (.ok content) ↔
      ∃ text, state.files.readText document.source = .ok text ∧
        (Tailor.Act.from_ state.inside
          (process world document.treatment substitution text)).1 = .ok content := by
  constructor
  · intro done
    unfold processed at done
    rw [from_bind_of_ok (from_get state)] at done
    cases reads : state.files.readText document.source with
    | error fault =>
        rw [reads] at done
        rcases fault with fault | fault
        · cases fault <;> cases done
        · cases done
    | ok text =>
        rw [reads] at done
        dsimp only at done
        rw [from_bind_of_ok (from_attempt state _)] at done
        refine ⟨text, rfl, ?_⟩
        generalize (Tailor.Act.from_ state.inside
          (process world document.treatment substitution text)).1 = outcome at done ⊢
        rcases outcome with (⟨what, line⟩ | crash) | output
        · cases done
        · cases crash <;> cases done
        · cases done
          rfl
  · rintro ⟨text, reads, processes⟩
    rw [from_processed_of_readText world substitution reads (Prod.ext processes rfl)]

/-- A document with a name that is processed is announced. -/
theorem conclude_dry {content : Text} (dry : options.dryRun = true)
    (named : document.source.names ≠ []) :
    (from_ state (conclude options document (.ok content))).1 = .ok (.completed none) := by
  obtain ⟨output, found, _⟩ := outputOf_eq (σ := σ) named
  unfold conclude announce
  simp only [dry, if_true]
  rw [found, pure_bind, from_bind_of_ok (from_note state _ _ _)]
  rfl

/-- **Dry runs of one document.** They complete with what processing makes of the text of
the source, and only if it makes something of it. -/
theorem rehearses_iff (dry : options.dryRun = true) {content : Text} :
    Rehearses world options config document state content ↔
      ∃ text, state.files.readText document.source = .ok text ∧
        (Tailor.Act.from_ (state.noting (heading document)).inside
          (process world document.treatment config.substitution text)).1 = .ok content := by
  constructor
  · exact fun rehearses => processed_eq_ok.mp rehearses.processes
  · rintro ⟨text, reads, processes⟩
    have worked : (from_ (state.noting (heading document))
        (processed world config.substitution document)).1 = .ok (.ok content) :=
      processed_eq_ok.mpr ⟨text, reads, processes⟩
    have concluded : ∀ between : State σ,
        (from_ between (conclude options document (.ok content))).1 = .ok (.completed none) :=
      fun _ => conclude_dry dry (Files.named_of_readText reads)
    have executed := (executeDocument_eq_ok world options config.substitution).mpr
      ⟨_, _, _, Prod.ext worked rfl, Prod.ext (concluded _) rfl, rfl⟩
    refine ⟨?_, worked⟩
    unfold execute
    rw [executeAll_unfailed executed [] rfl]
    rfl

end Tailor.Run
