import RadarRelay.Metadata.Document
import RadarRelay.Number.DoubleText

/-!
# Sample metadata

A polar volume and a single scan, both of the quarter past noon on 2 January
2024, for trying a node out.
-/

namespace RadarRelay.Metadata

open RadarRelay.Number

/-- A polar volume with two quantities. -/
def sampleVolume (source fingerprint : String) : Metadata where
  attributes :=
    [ ⟨"/what/object", "PVOL"⟩,
      ⟨"/what/date", "20240102"⟩,
      ⟨"/what/time", "121500"⟩,
      ⟨"/what/source", "NOD:" ++ source ++ ",RAD:SE41"⟩,
      ⟨"/dataset1/data1/what/quantity", "DBZH"⟩,
      ⟨"/dataset1/data2/what/quantity", "TH"⟩ ]
  sourceName := source
  resolvedSource := "NOD:" ++ source ++ ",RAD:SE41,PLC:Test"
  fingerprint
  fileSize := 0

/-- A scan at one elevation. -/
def sampleScan (source fingerprint : String) (elevation : Double) : Metadata where
  attributes :=
    [ ⟨"/what/object", "SCAN"⟩,
      ⟨"/what/date", "20240102"⟩,
      ⟨"/what/time", "121500"⟩,
      ⟨"/dataset1/where/elangle", Style.plain.text elevation⟩ ]
  sourceName := source
  resolvedSource := ""
  fingerprint
  fileSize := 0

end RadarRelay.Metadata
