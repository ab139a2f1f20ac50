/-!
# `SchemaModel.Catalog.SqlServer.Statements` — the catalog queries of SQL Server

The texts of the queries that read SQL Server's catalog. The order of the selected columns is the order in
which `SchemaModel.Catalog.SqlServer` takes the cells of a row.

## Contents
- **Tables.** `tables`, `columns`, `columnFlags`, `keyConstraints`, `foreignKeys`.
- **Routines.** `routines`, `parameters`, `functionColumns`, `procedureColumns`.
- **Types.** `userType`.
-/

namespace SchemaModel.SqlServer.Statements

/-- Base tables with their comments. -/
def tables : String :=
  "SELECT s.name, t.name, CAST(ep.value AS NVARCHAR(4000))
    FROM sys.tables t
    JOIN sys.schemas s ON s.schema_id = t.schema_id
    LEFT JOIN sys.extended_properties ep
      ON ep.major_id = t.object_id AND ep.minor_id = 0
     AND ep.class = 1 AND ep.name = 'MS_Description'
    WHERE t.is_ms_shipped = 0
    ORDER BY s.name, t.name"

/-- The columns of a table with their types and sizes. -/
def columns : String :=
  "SELECT
        c.name,
        CAST(c.column_id AS INT),
        CASE WHEN t.is_user_defined = 1 THEN TYPE_NAME(c.system_type_id) ELSE t.name END,
        CAST(c.max_length AS INT),
        CASE WHEN TYPE_NAME(c.system_type_id) IN ('decimal', 'numeric')
             THEN CAST(c.precision AS INT) END,
        CASE WHEN TYPE_NAME(c.system_type_id) IN ('decimal', 'numeric')
             THEN CAST(c.scale AS INT) END,
        CAST(ep.value AS NVARCHAR(4000))
    FROM sys.columns c
    JOIN sys.types t ON t.user_type_id = c.user_type_id
    LEFT JOIN sys.extended_properties ep
      ON ep.major_id = c.object_id AND ep.minor_id = c.column_id
     AND ep.class = 1 AND ep.name = 'MS_Description'
    WHERE c.object_id = OBJECT_ID(QUOTENAME(@P1) + '.' + QUOTENAME(@P2))
    ORDER BY c.column_id"

/-- How the columns of a table get their values. -/
def columnFlags : String :=
  "SELECT
        COLUMN_NAME,
        CASE WHEN IS_NULLABLE = 'YES' THEN 1 ELSE 0 END,
        ISNULL(COLUMNPROPERTY(OBJECT_ID(QUOTENAME(TABLE_SCHEMA) + '.' + QUOTENAME(TABLE_NAME)), COLUMN_NAME, 'IsIdentity'), 0),
        ISNULL(COLUMNPROPERTY(OBJECT_ID(QUOTENAME(TABLE_SCHEMA) + '.' + QUOTENAME(TABLE_NAME)), COLUMN_NAME, 'IsComputed'), 0),
        COLUMN_DEFAULT
    FROM INFORMATION_SCHEMA.COLUMNS
    WHERE TABLE_SCHEMA = @P1 AND TABLE_NAME = @P2
    ORDER BY ORDINAL_POSITION"

/-- The key constraints of a table, one row a column. -/
def keyConstraints : String :=
  "SELECT tc.CONSTRAINT_NAME, tc.CONSTRAINT_TYPE, kcu.COLUMN_NAME
    FROM INFORMATION_SCHEMA.TABLE_CONSTRAINTS tc
    JOIN INFORMATION_SCHEMA.KEY_COLUMN_USAGE kcu
      ON kcu.CONSTRAINT_SCHEMA = tc.CONSTRAINT_SCHEMA
     AND kcu.CONSTRAINT_NAME = tc.CONSTRAINT_NAME
     AND kcu.TABLE_SCHEMA = tc.TABLE_SCHEMA
     AND kcu.TABLE_NAME = tc.TABLE_NAME
    WHERE tc.TABLE_SCHEMA = @P1 AND tc.TABLE_NAME = @P2
      AND tc.CONSTRAINT_TYPE IN ('PRIMARY KEY', 'UNIQUE')
    ORDER BY tc.CONSTRAINT_TYPE, tc.CONSTRAINT_NAME, kcu.ORDINAL_POSITION"

/-- The foreign keys of a table, one row a pair of columns. -/
def foreignKeys : String :=
  "SELECT fk.name, pc.name, SCHEMA_NAME(rt.schema_id), rt.name, rc.name
    FROM sys.foreign_keys fk
    JOIN sys.foreign_key_columns fkc ON fkc.constraint_object_id = fk.object_id
    JOIN sys.columns pc
      ON pc.object_id = fkc.parent_object_id AND pc.column_id = fkc.parent_column_id
    JOIN sys.tables rt ON rt.object_id = fkc.referenced_object_id
    JOIN sys.columns rc
      ON rc.object_id = fkc.referenced_object_id AND rc.column_id = fkc.referenced_column_id
    WHERE fk.parent_object_id = OBJECT_ID(QUOTENAME(@P1) + '.' + QUOTENAME(@P2))
    ORDER BY fk.name, fkc.constraint_column_id"

/-- Routines with what they return. -/
def routines : String :=
  "SELECT
        r.ROUTINE_SCHEMA,
        r.ROUTINE_NAME,
        r.SPECIFIC_NAME,
        r.ROUTINE_TYPE,
        r.DATA_TYPE,
        CAST(ep.value AS NVARCHAR(4000))
    FROM INFORMATION_SCHEMA.ROUTINES r
    LEFT JOIN sys.extended_properties ep
      ON ep.major_id = OBJECT_ID(QUOTENAME(r.ROUTINE_SCHEMA) + '.' + QUOTENAME(r.ROUTINE_NAME))
     AND ep.minor_id = 0 AND ep.class = 1 AND ep.name = 'MS_Description'
    WHERE OBJECTPROPERTY(OBJECT_ID(QUOTENAME(r.ROUTINE_SCHEMA) + '.' + QUOTENAME(r.ROUTINE_NAME)), 'IsMSShipped') = 0
    ORDER BY r.ROUTINE_SCHEMA, r.ROUTINE_NAME"

/-- The inputs of a routine; number zero is what a function returns. -/
def parameters : String :=
  "SELECT
        SUBSTRING(p.name, 2, 128),
        CAST(p.parameter_id AS INT),
        CASE WHEN t.is_table_type = 1 THEN t.name
             WHEN t.is_user_defined = 1 THEN TYPE_NAME(t.system_type_id)
             ELSE t.name END,
        SCHEMA_NAME(t.schema_id),
        CAST(t.is_table_type AS INT),
        CAST(p.has_default_value AS INT),
        CAST(p.is_output AS INT)
    FROM sys.parameters p
    JOIN sys.types t ON t.user_type_id = p.user_type_id
    WHERE p.object_id = OBJECT_ID(QUOTENAME(@P1) + '.' + QUOTENAME(@P2))
      AND p.parameter_id > 0
    ORDER BY p.parameter_id"

/-- The columns of a function that returns a table. -/
def functionColumns : String :=
  "SELECT
        COLUMN_NAME,
        CAST(ORDINAL_POSITION AS INT),
        DATA_TYPE,
        CASE WHEN IS_NULLABLE = 'YES' THEN 1 ELSE 0 END,
        CAST(CHARACTER_MAXIMUM_LENGTH AS INT)
    FROM INFORMATION_SCHEMA.ROUTINE_COLUMNS
    WHERE TABLE_SCHEMA = @P1 AND TABLE_NAME = @P2
    ORDER BY ORDINAL_POSITION"

/-- The columns of the first rows that a procedure gives. -/
def procedureColumns : String :=
  "SELECT
        ISNULL(name, ''),
        CAST(column_ordinal AS INT),
        system_type_name,
        CAST(is_nullable AS INT),
        CAST(max_length AS INT)
    FROM sys.dm_exec_describe_first_result_set_for_object(
        OBJECT_ID(QUOTENAME(@P1) + '.' + QUOTENAME(@P2)), 0)
    WHERE is_hidden = 0 AND error_number IS NULL
    ORDER BY column_ordinal"

/-- A user-defined type with its columns. -/
def userType : String :=
  "SELECT
        c.name,
        CAST(c.column_id AS INT),
        CASE WHEN t.is_user_defined = 1 THEN TYPE_NAME(c.system_type_id) ELSE t.name END,
        CAST(c.is_nullable AS INT),
        CAST(c.max_length AS INT),
        (SELECT TOP 1 CAST(value AS NVARCHAR(4000))
         FROM fn_listextendedproperty('MS_Description', 'SCHEMA', @P1, 'TYPE', @P2, NULL, NULL))
    FROM sys.table_types tt
    JOIN sys.columns c ON c.object_id = tt.type_table_object_id
    JOIN sys.types t ON t.user_type_id = c.user_type_id
    WHERE SCHEMA_NAME(tt.schema_id) = @P1 AND tt.name = @P2
    ORDER BY c.column_id"

end SchemaModel.SqlServer.Statements
