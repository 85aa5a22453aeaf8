import VmDescriptor.Proofs.Descriptor.Failures
import VmDescriptor.Proofs.FailedLookups

/-!
Builds in which a lookup fails.

A build gives up at the first lookup that fails, whichever it is: until then it is as the build in
which the lookup does not fail. No other build ends with the error of a lookup.
-/

namespace VmDescriptor

open Program

namespace Request

variable (fresh : FreshIds) (req : Request) (config : EngineConfig) (stores : Stores)

/-- A descriptor does not fail of itself with the error of a lookup. -/
lemma not_mayFail_descriptor {given : Answers} {config : BuildConfig} (e : LookupError) :
    ¬ (req.descriptor fresh config).MayFail given (.lookup e) := by
  intro h
  rw [descriptor_eq, ← bind_eq, mayFail_bind] at h
  rcases h with h | ⟨root, -, h⟩
  · exact Descriptor.isOwn_of_domain h
  · rw [root.document_eq] at h
    cases h

/-- **A failed lookup ends the build** with its error and cuts it off there: the lookups, and what
is reported, are those of the build without the failure up to this point. A build ends with the
error of a lookup only if its last lookup has failed with it. -/
theorem build_failing (name : String) (n : Nat) (error : Lookup → LookupError) :
    (∀ before c, (req.build fresh config stores).MakesNth name n before c →
      (req.build fresh config (stores.failing name n error)).CutOff
        (req.build fresh config stores) before c (error c)) ∧
    ((∀ before c, ¬ (req.build fresh config stores).MakesNth name n before c) →
      req.build fresh config (stores.failing name n error) = req.build fresh config stores) ∧
    ∀ e, (req.build fresh config stores).result = .error (.lookup e) ↔
      ∃ before c, (req.build fresh config stores).lookups = before ++ [c] ∧
        stores before.reverse c = .error e := by
  obtain ⟨hreached, hmissed⟩ :=
    run_failing stores name n error (req.descriptor fresh (.resolve config req.vm)).sharing
  refine ⟨hreached, hmissed, fun e => ?_⟩
  have hown (e : LookupError) : ¬ (req.descriptor fresh
      (.resolve config req.vm)).sharing.MayFail (givenBy stores) (.lookup e) := fun h =>
    not_mayFail_descriptor fresh req e (mayEnd_of_remembering admissible_none h)
  have hresult : (req.build fresh config stores).result = .error (.lookup e) ↔
      ∃ before c, (req.build fresh config stores).lookups = before ++ [c] ∧
        stores (before.reverse ++ []) c = .error e := result_eq_lookup_iff hown
  simpa only [List.append_nil] using hresult

end Request

namespace Fixture

/-- A machine with two NICs whose profiles are not known. -/
def withUnknownProfiles : Fixture :=
  let nic (id profile : Uuid) : Nic :=
    ⟨id, default, "", "", true, true, some profile, none, none⟩
  plain (plainMachine none [] [nic ⟨1⟩ ⟨8⟩, nic ⟨2⟩ ⟨9⟩])
    [.plain ⟨⟨1⟩, default⟩ .interface "bridge", .plain ⟨⟨2⟩, default⟩ .interface "bridge"]

/-- If the second profile cannot be looked up, the first one is still reported as missing. -/
theorem build_failing_secondProfile :
    (withUnknownProfiles.build (.constant default) .empty).MakesNth "vnic_profile" 2
        [.devicesForVm default, .vnicProfile ⟨8⟩] (.vnicProfile ⟨9⟩) ∧
      (withUnknownProfiles.request.build (.constant default) .empty
        ((Stores.ofInventory withUnknownProfiles.inventory).failing "vnic_profile" 2
          fun c => .unavailable c.store "down")).CutOff
        (withUnknownProfiles.build (.constant default) .empty)
        [.devicesForVm default, .vnicProfile ⟨8⟩] (.vnicProfile ⟨9⟩)
        (.unavailable .network "down") ∧
      (withUnknownProfiles.request.build (.constant default) .empty
        ((Stores.ofInventory withUnknownProfiles.inventory).failing "vnic_profile" 2
          fun c => .unavailable c.store "down")).notices = [.missingProfile ⟨1⟩ ⟨8⟩] := by
  have hmakes : (withUnknownProfiles.build (.constant default) .empty).MakesNth "vnic_profile" 2
      [.devicesForVm default, .vnicProfile ⟨8⟩] (.vnicProfile ⟨9⟩) :=
    ⟨by decide +kernel, by decide, by decide⟩
  exact ⟨hmakes, (Request.build_failing _ _ _ _ _ _ _).1 _ _ hmakes, by decide +kernel⟩

end Fixture

end VmDescriptor
