import AsCensus.Proofs.TallyCounts
import Mathlib.Logic.Relation

namespace AsCensus

open Std
open Text

/-!
# What conditioning finds in a path

A path can be conditioned in one pass over its words.  The pass keeps the first
public system that it met and the set of the public systems other than the origin.
The two interact in one respect only: an origin that comes first is the peer
although it is left out of the set.  So the peer is taken out at the end, wherever
it stood, and not skipped while the words are read.

The pass agrees with `condition` (`pass_eq_condition`), and what it finds is
determined by the first public system and by the set of all of them
(`condition_congr`).  Everything else in the text of a path may vary: its braces,
the words that name no public system, repetitions, and the order of the words after
a public one.
-/

namespace AsPath

/-- The text of a path without its braces. -/
def bare (path : String) : List Char :=
  path.toList.filter fun c => !isBrace c

/-- Take notice of one word of a path. -/
def note (origin : Asn) (found : Conditioned) (word : List Char) : Conditioned :=
  match publicHop word with
  | none => found
  | some asn =>
      { transit := if asn = origin then found.transit else found.transit.insert asn
        peer := found.peer.or (some asn) }

/-- Leave the peer out of the systems that provide transit. -/
def dropPeer (found : Conditioned) : Conditioned :=
  match found.peer with
  | none => found
  | some peer => { found with transit := found.transit.erase peer }

/-- Condition a path in one pass over its words. -/
def pass (path : String) (origin : Asn) (withoutPeer : Bool) : Conditioned :=
  let found := (words path).foldl (note origin) { transit := ∅, peer := none }
  if withoutPeer then dropPeer found else found

/-- Two lists of systems with the same one in front and the same ones in all. -/
structure SameSystems (before after : List Asn) : Prop where
  first : before.head? = after.head?
  members : forall asn, asn ∈ before <-> asn ∈ after

/-- A change of the text of a path that leaves alone what it says.  Braces may be put
in or taken out.  A word that names no public system may be put in, and so may one
that names a system again, in the same or in another spelling.  The words after one
that names a public system may change places. -/
inductive Rewording : String -> String -> Prop where
  | braces {path other : String} : bare path = bare other -> Rewording path other
  | noise {path other : String} {front back : List (List Char)} {word : List Char} :
      words path = front ++ back -> words other = front ++ word :: back ->
      publicHop word = none -> Rewording path other
  | repeated {path other : String} {front back : List (List Char)} {earlier word : List Char} :
      words path = front ++ back -> words other = front ++ word :: back ->
      earlier ∈ front -> publicHop earlier = publicHop word -> Rewording path other
  | reordered {path other : String} {front rest shuffled : List (List Char)}
      {word : List Char} :
      words path = front ++ word :: rest -> words other = front ++ word :: shuffled ->
      (publicHop word).isSome -> rest.Perm shuffled -> Rewording path other

/-! ## The result by its parts -/

theorem Conditioned.ext_of_mem {first second : Conditioned} (peer : first.peer = second.peer)
    (transit : forall asn, asn ∈ first.transit <-> asn ∈ second.transit) : first = second := by
  cases first
  cases second
  congr
  exact ExtTreeSet.ext_mem transit

theorem peer_condition (path : String) (origin : Asn) (withoutPeer : Bool) :
    (condition path origin withoutPeer).peer = (hops path).head? :=
  rfl

/-- Conditioning depends on the first public system and on the set of them only. -/
theorem condition_congr {path other : String} (same : SameSystems (hops path) (hops other))
    (origin : Asn) (withoutPeer : Bool) :
    condition path origin withoutPeer = condition other origin withoutPeer := by
  apply Conditioned.ext_of_mem
  · exact same.first
  · intro asn
    rw [mem_transit_condition_iff, mem_transit_condition_iff, same.members, same.first]

theorem hops_eq_filter (path : String) :
    hops path =
      (((bare path).splitOn ' ').filterMap Asn.read).filter fun asn => !asn.isReserved := by
  rw [List.filter_filterMap]
  rfl

theorem mem_transitOf {path : String} {origin : Asn} {withoutPeer : Bool} {asn : Asn} :
    asn ∈ transitOf path origin withoutPeer <->
      asn ∈ hops path ∧ asn ≠ origin ∧
        (withoutPeer = true -> (condition path origin withoutPeer).peer ≠ some asn) := by
  rw [Tally.mem_transitOf_iff, mem_transit_condition_iff, peer_condition]

theorem ascending_transitOf (path : String) (origin : Asn) (withoutPeer : Bool) :
    (transitOf path origin withoutPeer).Pairwise (· < ·) := by
  have ordered := (condition path origin withoutPeer).transit.ordered_toList
  refine ordered.imp ?_
  intro first second smaller
  exact Std.compare_eq_lt.mp smaller

/-! ## The pass -/

theorem peer_note (origin : Asn) (found : Conditioned) (word : List Char) :
    (note origin found word).peer = found.peer.or (publicHop word) := by
  cases names : publicHop word <;> simp [note, names]

theorem mem_transit_note {origin : Asn} {found : Conditioned} {word : List Char} {asn : Asn} :
    asn ∈ (note origin found word).transit <->
      asn ∈ found.transit ∨ (publicHop word = some asn ∧ asn ≠ origin) := by
  cases names : publicHop word with
  | none => simp [note, names]
  | some named =>
      by_cases isOrigin : named = origin
      · subst isOrigin
        simp only [note, names, if_true, Option.some.injEq]
        constructor
        · exact Or.inl
        · rintro (before | ⟨rfl, different⟩)
          · exact before
          · exact absurd rfl different
      · simp only [note, names, if_neg isOrigin, ExtTreeSet.mem_insert,
          LawfulEqCmp.compare_eq_iff_eq, Option.some.injEq]
        constructor
        · rintro (rfl | before)
          · exact Or.inr ⟨rfl, isOrigin⟩
          · exact Or.inl before
        · rintro (before | ⟨rfl, _⟩)
          · exact Or.inr before
          · exact Or.inl rfl

/-- What a pass has found once it has met some public systems. -/
structure Noted (origin : Asn) (met : List Asn) (found : Conditioned) : Prop where
  peer : found.peer = met.head?
  transit : forall asn, asn ∈ found.transit <-> asn ∈ met ∧ asn ≠ origin

theorem noted_nothing (origin : Asn) : Noted origin [] { transit := ∅, peer := none } where
  peer := rfl
  transit asn := by simp

theorem Noted.note {origin : Asn} {met : List Asn} {found : Conditioned}
    (noted : Noted origin met found) (word : List Char) :
    Noted origin (met ++ (publicHop word).toList) (note origin found word) := by
  constructor
  · rw [peer_note, noted.peer, List.head?_append, Option.head?_toList]
  · intro asn
    rw [mem_transit_note, noted.transit, List.mem_append, Option.mem_toList, or_and_right]

theorem Noted.noteAll {origin : Asn} {met : List Asn} {found : Conditioned}
    (noted : Noted origin met found) (texts : List (List Char)) :
    Noted origin (met ++ texts.filterMap publicHop) (texts.foldl (AsPath.note origin) found) := by
  -- The systems met so far grow at their end, as the words are read from the front.
  induction texts generalizing met found with
  | nil => simpa using noted
  | cons word rest ih =>
      have next := ih (noted.note word)
      rw [List.append_assoc] at next
      cases names : publicHop word with
      | none => simpa [names] using next
      | some asn => simpa [names] using next

theorem mem_transit_dropPeer {found : Conditioned} {asn : Asn} :
    asn ∈ (dropPeer found).transit <-> asn ∈ found.transit ∧ found.peer ≠ some asn := by
  cases met : found.peer with
  | none => simp [dropPeer, met]
  | some peer => simp [dropPeer, met, and_comm]

theorem peer_dropPeer (found : Conditioned) : (dropPeer found).peer = found.peer := by
  cases met : found.peer <;> simp [dropPeer, met]

theorem pass_eq_condition (path : String) (origin : Asn) (withoutPeer : Bool) :
    pass path origin withoutPeer = condition path origin withoutPeer := by
  have noted : Noted origin (hops path) _ := (noted_nothing origin).noteAll (words path)
  apply Conditioned.ext_of_mem
  · cases withoutPeer with
    | false => exact noted.peer
    | true => exact (peer_dropPeer _).trans noted.peer
  · intro asn
    rw [mem_transit_condition_iff]
    cases withoutPeer with
    | false => simpa [pass] using noted.transit asn
    | true =>
        change asn ∈ (dropPeer _).transit <-> _
        rw [mem_transit_dropPeer, noted.transit, noted.peer, and_assoc]
        simp

/-! ## Changes of the text -/

theorem SameSystems.refl (asns : List Asn) : SameSystems asns asns where
  first := rfl
  members _ := Iff.rfl

theorem SameSystems.of_eq {before after : List Asn} (same : before = after) :
    SameSystems before after := by
  rw [same]
  exact SameSystems.refl after

theorem sameSystems_insert {front : List Asn} {asn : Asn} (met : asn ∈ front)
    (back : List Asn) : SameSystems (front ++ back) (front ++ asn :: back) := by
  constructor
  · cases front with
    | nil => exact absurd met List.not_mem_nil
    | cons first rest => rfl
  · intro other
    rw [List.mem_append, List.mem_append, List.mem_cons]
    constructor
    · rintro (inFront | inBack)
      · exact Or.inl inFront
      · exact Or.inr (Or.inr inBack)
    · rintro (inFront | rfl | inBack)
      · exact Or.inl inFront
      · exact Or.inl met
      · exact Or.inr inBack

theorem sameSystems_shuffle (front : List Asn) (asn : Asn) {rest shuffled : List Asn}
    (shuffle : rest.Perm shuffled) :
    SameSystems (front ++ asn :: rest) (front ++ asn :: shuffled) := by
  constructor
  · cases front <;> rfl
  · intro other
    apply List.Perm.mem_iff
    exact (shuffle.cons asn).append_left front

theorem Rewording.sameSystems {path other : String} (change : Rewording path other) :
    SameSystems (hops path) (hops other) := by
  cases change with
  | braces same =>
      apply SameSystems.of_eq
      rw [hops_eq_filter, hops_eq_filter, same]
  | noise before after nothing =>
      apply SameSystems.of_eq
      simp [hops, before, after, nothing]
  | repeated before after member same =>
      rename_i front back earlier word
      cases names : publicHop word with
      | none =>
          apply SameSystems.of_eq
          simp [hops, before, after, names]
      | some asn =>
          have met : asn ∈ front.filterMap publicHop :=
            List.mem_filterMap.mpr ⟨earlier, member, same.trans names⟩
          rw [hops, hops, before, after, List.filterMap_append, List.filterMap_append,
            List.filterMap_cons_some names]
          exact sameSystems_insert met _
  | reordered before after names shuffle =>
      rcases Option.isSome_iff_exists.mp names with ⟨asn, named⟩
      rw [hops, hops, before, after, List.filterMap_append, List.filterMap_append,
        List.filterMap_cons_some named, List.filterMap_cons_some named]
      exact sameSystems_shuffle _ asn (shuffle.filterMap publicHop)

theorem condition_reworded {path other : String} (change : Relation.EqvGen Rewording path other)
    (origin : Asn) (withoutPeer : Bool) :
    condition path origin withoutPeer = condition other origin withoutPeer := by
  induction change with
  | rel path other change =>
      exact condition_congr change.sameSystems origin withoutPeer
  | refl path => rfl
  | symm path other change ih => exact ih.symm
  | trans path middle other change further ih later => exact ih.trans later

/-! ## The result -/

/-- Conditioning a path, with the systems of a path read off its text.  The peer is
the first of them even when it is the origin.  The last part says what the result
does not depend on. -/
theorem condition_finds_peer_and_transit (path : String) (origin : Asn) (withoutPeer : Bool) :
    pass path origin withoutPeer = condition path origin withoutPeer ∧
    hops path =
      (((bare path).splitOn ' ').filterMap Asn.read).filter (fun asn => !asn.isReserved) ∧
    (condition path origin withoutPeer).peer = (hops path).head? ∧
    ((condition path origin withoutPeer).peer = none <-> hops path = []) ∧
    (transitOf path origin withoutPeer).Pairwise (· < ·) ∧
    (forall asn, asn ∈ transitOf path origin withoutPeer <->
      asn ∈ hops path ∧ asn ≠ origin ∧
        (withoutPeer = true -> (condition path origin withoutPeer).peer ≠ some asn)) ∧
    (forall asn, asn ∈ transitOf path origin withoutPeer ->
      asn.isReserved = false ∧ asn ≠ origin ∧
        asn.toNat ≠ 0 ∧ asn.toNat ≠ 23456 ∧ (asn.toNat < 64496 ∨ 131071 < asn.toNat) ∧
          asn.toNat < 4200000000) ∧
    (forall other, Relation.EqvGen Rewording path other ->
      condition path origin withoutPeer = condition other origin withoutPeer) := by
  refine ⟨pass_eq_condition path origin withoutPeer, hops_eq_filter path, rfl, ?_,
    ascending_transitOf path origin withoutPeer, fun asn => mem_transitOf, ?_, ?_⟩
  · rw [peer_condition, List.head?_eq_none_iff]
  · intro asn provides
    have notReserved := Tally.not_reserved_of_mem_transitOf provides
    have elsewhere := notReserved
    rw [← Bool.not_eq_true, Asn.isReserved_iff] at elsewhere
    exact ⟨notReserved, (mem_transitOf.mp provides).2.1, by omega⟩
  · intro other change
    exact condition_reworded change origin withoutPeer

theorem condition_prepended_peer :
    (condition "701 3356" 701 false).peer = some 701 ∧
    transitOf "701 3356" 701 false = [3356] ∧
    condition "701 3356" 701 false = condition "{701} 701 3356" 701 false := by
  have spelled : words "701 3356" = [['7', '0', '1']] ++ [['3', '3', '5', '6']] := by decide
  have prepended : words "{701} 701 3356" =
      [['7', '0', '1']] ++ ['7', '0', '1'] :: [['3', '3', '5', '6']] := by decide
  have change : Rewording "701 3356" "{701} 701 3356" :=
    Rewording.repeated spelled prepended (List.mem_singleton_self _) rfl
  rcases condition_finds_peer_and_transit "701 3356" 701 false with
    ⟨_, _, peer, _, _, _, _, reworded⟩
  exact ⟨peer.trans (by decide), by decide +kernel, reworded _ (Relation.EqvGen.rel _ _ change)⟩

end AsPath
end AsCensus
