import Inspection.Json.Basic

/-!
# The schema of product documents

The schema that comes with the program: what a product document must hold before it is read.
-/

namespace Inspection.Schema

/-- The schema of product documents, as a document. -/
def productDocument : Json :=
  .record [
    ("$schema", .text "http://json-schema.org/draft-07/schema#"),
    ("$id", .text "https://qcgate.dev/schemas/product_spec.schema.json"),
    ("title", .text "Product measurement spec"), ("type", .text "object"),
    ("required", .texts ["type", "product_id", "name", "measurement_points"]),
    ("properties", .record [
      ("type", .record [("const", .text "product_spec")]),
      ("product_id", .record [("type", .text "string"), ("pattern", .text "^[A-Za-z0-9_.-]+$")]),
      ("name", .record [("type", .text "string"), ("minLength", .int 1)]),
      ("category", .record [("type", .texts ["string", "null"])]),
      ("description", .record [("type", .texts ["string", "null"])]),
      ("measurement_points", .record [
        ("type", .text "array"), ("minItems", .int 1),
        ("items", .record [("$ref", .text "#/definitions/measurement_point")])]),
      ("measurement_groups", .record [
        ("type", .text "array"),
        ("items", .record [
          ("type", .text "object"), ("required", .texts ["group_name", "measurement_items"]),
          ("properties", .record [
            ("group_name", .record [("type", .text "string")]),
            ("order", .record [("type", .text "integer")]),
            ("measurement_items", .record [
              ("type", .text "array"), ("items", .record [("type", .text "string")])])])])])]),
    ("definitions", .record [
      ("measurement_point", .record [
        ("type", .text "object"), ("required", .texts ["name_id", "setup", "evaluation_type"]),
        ("properties", .record [
          ("name_id", .record [("type", .text "string"), ("pattern", .text "^[A-Za-z_][A-Za-z0-9_]*$")]),
          ("setup", .record [
            ("type", .text "object"), ("required", .texts ["nature", "sample_amount"]),
            ("properties", .record [
              ("name", .record [("type", .texts ["string", "null"])]),
              ("nature", .record [("enum", .texts ["QUANTITATIVE", "QUALITATIVE"])]),
              ("type", .record [("enum", .texts ["SINGLE", "BEFORE_AFTER"])]),
              ("source", .record [("enum", .texts ["MANUAL", "INSTRUMENT", "DERIVED"])]),
              ("source_derived_name_id", .record [("type", .texts ["string", "null"])]),
              ("sample_amount", .record [("type", .text "integer"), ("minimum", .int 1)])])]),
          ("variables", .record [
            ("type", .text "array"),
            ("items", .record [
              ("type", .text "object"), ("required", .texts ["name", "type"]),
              ("properties", .record [
                ("name", .record [
                  ("type", .text "string"),
                  ("pattern", .text "^[A-Za-z_][A-Za-z0-9_]*$")]),
                ("type", .record [("enum", .texts ["FIXED", "MANUAL", "FORMULA"])]),
                ("value", .record [("type", .texts ["number", "null"])]),
                ("formula", .record [("type", .texts ["string", "null"])])])])]),
          ("pre_processing_formulas", .record [
            ("type", .text "array"),
            ("items", .record [
              ("type", .text "object"), ("required", .texts ["name", "formula"]),
              ("properties", .record [
                ("name", .record [
                  ("type", .text "string"),
                  ("pattern", .text "^[A-Za-z_][A-Za-z0-9_]*$")]),
                ("formula", .record [("type", .text "string"), ("minLength", .int 1)]),
                ("is_show", .record [("type", .text "boolean")])])])]),
          ("evaluation_type", .record [("enum", .texts ["PER_SAMPLE", "JOINT", "SKIP_CHECK"])]),
          ("evaluation_setting", .record [
            ("type", .text "object"),
            ("properties", .record [
              ("per_sample_setting", .record [
                ("type", .texts ["object", "null"]),
                ("required", .texts ["is_raw_data"]),
                ("properties", .record [
                  ("is_raw_data", .record [("type", .text "boolean")]),
                  ("pre_processing_formula_name", .record [("type", .texts ["string", "null"])])])]),
              ("joint_setting", .record [
                ("type", .texts ["object", "null"]), ("required", .texts ["formulas"]),
                ("properties", .record [
                  ("formulas", .record [
                    ("type", .text "array"),
                    ("items", .record [
                      ("type", .text "object"),
                      ("required", .texts ["name", "formula"]),
                      ("properties", .record [
                        ("name", .record [("type", .text "string")]),
                        ("formula", .record [
                          ("type", .text "string"), ("minLength", .int 1)]),
                        ("is_final_value", .record [("type", .text "boolean")])])])])])]),
              ("qualitative_setting", .record [
                ("type", .texts ["object", "null"]), ("required", .texts ["label"]),
                ("properties", .record [("label", .record [("type", .text "string")])])])])]),
          ("rule_evaluation_setting", .record [
            ("type", .texts ["object", "null"]),
            ("required", .texts ["rule", "value", "unit"]),
            ("properties", .record [
              ("rule", .record [("enum", .texts ["MIN", "MAX", "BETWEEN"])]),
              ("value", .record [("type", .text "number")]),
              ("unit", .record [("type", .text "string"), ("minLength", .int 1)]),
              ("tolerance_minus", .record [("type", .texts ["number", "null"])]),
              ("tolerance_plus", .record [("type", .texts ["number", "null"])])])])])])])]

end Inspection.Schema
