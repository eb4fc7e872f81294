import CatalogSearch.Vocabulary.Basic

/-! # School subjects

The subjects a resource can belong to, and a search can be narrowed to. -/

namespace CatalogSearch

/-- A **school subject**. -/
inductive Subject where
  | deutsch
  | deutschAlsZweitsprache
  | englisch
  | franzoesisch
  | griechisch
  | italienisch
  | latein
  | russisch
  | sonstige
  | spanisch
  | tuerkisch
  | biologie
  | chemie
  | informatikItb
  | mathematik
  | physik
  | sachunterricht
  | umwelt
  | geografie
  | geschichte
  | politischeBildung
  | wirtschaftskunde
  | bildendeKunst
  | musik
  | ethik
  | philosophie
  | religion
  | sport
  | arbeitslehre
  | beruflicheBildung
  | elementarbereichVorschulerziehung
  | freizeit
  | gesundheit
  | grundschule
  | heimatraumRegion
  | interkulturelleBildung
  | kinderUndJugendbildung
  | medienpaedagogik
  | paedagogik
  | praxisorientierteFaecher
  | psychologie
  | rettenHelfenSchuetzen
  | spielUndDokumentarfilm
  | suchtUndPraevention
  | uebergreifendeThemen
  | verkehrserziehung
  | weiterbildung
  deriving DecidableEq, Repr

namespace Subject

/-- The terms in the order they are listed in. -/
def terms : List Subject :=
  [.deutsch, .deutschAlsZweitsprache, .englisch, .franzoesisch, .griechisch, .italienisch,
   .latein, .russisch, .sonstige, .spanisch, .tuerkisch, .biologie, .chemie, .informatikItb,
   .mathematik, .physik, .sachunterricht, .umwelt, .geografie, .geschichte, .politischeBildung,
   .wirtschaftskunde, .bildendeKunst, .musik, .ethik, .philosophie, .religion, .sport,
   .arbeitslehre, .beruflicheBildung, .elementarbereichVorschulerziehung, .freizeit, .gesundheit,
   .grundschule, .heimatraumRegion, .interkulturelleBildung, .kinderUndJugendbildung,
   .medienpaedagogik, .paedagogik, .praxisorientierteFaecher, .psychologie,
   .rettenHelfenSchuetzen, .spielUndDokumentarfilm, .suchtUndPraevention, .uebergreifendeThemen,
   .verkehrserziehung, .weiterbildung]

/-- The two spellings of a term. -/
def term : Subject → Term
  | .deutsch => ⟨"DEUTSCH", "Deutsch"⟩
  | .deutschAlsZweitsprache => ⟨"DEUTSCH_ALS_ZWEITSPRACHE", "Deutsch als Zweitsprache"⟩
  | .englisch => ⟨"ENGLISCH", "Englisch"⟩
  | .franzoesisch => ⟨"FRANZOSISCH", "Französisch"⟩
  | .griechisch => ⟨"GRIECHISCH", "Griechisch"⟩
  | .italienisch => ⟨"ITALIENISCH", "Italienisch"⟩
  | .latein => ⟨"LATEIN", "Latein"⟩
  | .russisch => ⟨"RUSSISCH", "Russisch"⟩
  | .sonstige => ⟨"SONSTIGE", "Sonstige"⟩
  | .spanisch => ⟨"SPANISCH", "Spanisch"⟩
  | .tuerkisch => ⟨"TURKISCH", "Türkisch"⟩
  | .biologie => ⟨"BIOLOGIE", "Biologie"⟩
  | .chemie => ⟨"CHEMIE", "Chemie"⟩
  | .informatikItb => ⟨"INFORMATIK_ITB", "Informatik/ITB"⟩
  | .mathematik => ⟨"MATHEMATIK", "Mathematik"⟩
  | .physik => ⟨"PHYSIK", "Physik"⟩
  | .sachunterricht => ⟨"SACHUNTERRICHT", "Sachunterricht"⟩
  | .umwelt => ⟨"UMWELT", "Umwelt"⟩
  | .geografie => ⟨"GEOGRAFIE", "Geografie"⟩
  | .geschichte => ⟨"GESCHICHTE", "Geschichte"⟩
  | .politischeBildung => ⟨"POLITISCHE_BILDUNG", "Politische Bildung"⟩
  | .wirtschaftskunde => ⟨"WIRTSCHAFTSKUNDE", "Wirtschaftskunde"⟩
  | .bildendeKunst => ⟨"BILDENDE_KUNST", "Bildende Kunst"⟩
  | .musik => ⟨"MUSIK", "Musik"⟩
  | .ethik => ⟨"ETHIK", "Ethik"⟩
  | .philosophie => ⟨"PHILOSOPHIE", "Philosophie"⟩
  | .religion => ⟨"RELIGION", "Religion"⟩
  | .sport => ⟨"SPORT", "Sport"⟩
  | .arbeitslehre => ⟨"ARBEITSLEHRE", "Arbeitslehre"⟩
  | .beruflicheBildung => ⟨"BERUFLICHE_BILDUNG", "Berufliche Bildung"⟩
  | .elementarbereichVorschulerziehung =>
    ⟨"ELEMENTARBEREICH_VORSCHULERZIEHUNG", "Elementarbereich, Vorschulerziehung"⟩
  | .freizeit => ⟨"FREIZEIT", "Freizeit"⟩
  | .gesundheit => ⟨"GESUNDHEIT", "Gesundheit"⟩
  | .grundschule => ⟨"GRUNDSCHULE", "Grundschule"⟩
  | .heimatraumRegion => ⟨"HEIMATRAUM_REGION", "Heimatraum, Region"⟩
  | .interkulturelleBildung => ⟨"INTERKULTURELLE_BILDUNG", "Interkulturelle Bildung"⟩
  | .kinderUndJugendbildung => ⟨"KINDER_UND_JUGENDBILDUNG", "Kinder- und Jugendbildung"⟩
  | .medienpaedagogik => ⟨"MEDIENPADAGOGIK", "Medienpädagogik"⟩
  | .paedagogik => ⟨"PADAGOGIK", "Pädagogik"⟩
  | .praxisorientierteFaecher => ⟨"PRAXISORIENTIERTE_FACHER", "Praxisorientierte Fächer"⟩
  | .psychologie => ⟨"PSYCHOLOGIE", "Psychologie"⟩
  | .rettenHelfenSchuetzen => ⟨"RETTEN_HELFEN_SCHUTZEN", "Retten, Helfen, Schützen"⟩
  | .spielUndDokumentarfilm => ⟨"SPIEL_UND_DOKUMENTARFILM", "Spiel- und Dokumentarfilm"⟩
  | .suchtUndPraevention => ⟨"SUCHT_UND_PRAVENTION", "Sucht und Prävention"⟩
  | .uebergreifendeThemen => ⟨"UBERGREIFENDE_THEMEN", "Übergreifende Themen"⟩
  | .verkehrserziehung => ⟨"VERKEHRSERZIEHUNG", "Verkehrserziehung"⟩
  | .weiterbildung => ⟨"WEITERBILDUNG", "Weiterbildung"⟩

/-- Every term is listed. -/
theorem mem_terms (t : Subject) : t ∈ terms := by cases t <;> decide

instance : Vocabulary Subject where
  kind := "Subject"
  terms := terms
  term := term

end Subject

end CatalogSearch
