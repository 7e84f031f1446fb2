/-!
The statements that read each dialect's catalog. All of them name their columns alike: a row for a
column has `field`, `native_type`, `column_type`, `is_nullable`, `key_type`, `default_value`, `extra`,
`char_length` and `enum_values`; a row for a key has `org_column`, `ref_table` and `ref_column`; a row
for a table has `table_name`.
-/

namespace DataAccess

structure CatalogStatements where
  columns : String
  /-- Keys that the table declares. -/
  forwardKeys : String
  /-- Keys of other tables that point at the table. -/
  backwardKeys : String
  tables : String
  deriving DecidableEq, Repr, Inhabited

namespace CatalogStatements

def mysql : CatalogStatements where
  columns :=
    "SELECT COLUMN_NAME AS field, " ++
    "DATA_TYPE AS native_type, " ++
    "COLUMN_TYPE AS column_type, " ++
    "CASE WHEN IS_NULLABLE = 'YES' THEN 1 ELSE 0 END AS is_nullable, " ++
    "COLUMN_KEY AS key_type, " ++
    "COLUMN_DEFAULT AS default_value, " ++
    "EXTRA AS extra, " ++
    "CHARACTER_MAXIMUM_LENGTH AS char_length, " ++
    "CASE WHEN DATA_TYPE = 'enum' THEN COLUMN_TYPE END AS enum_values " ++
    "FROM information_schema.COLUMNS " ++
    "WHERE TABLE_SCHEMA = DATABASE() AND TABLE_NAME = ? " ++
    "ORDER BY ORDINAL_POSITION"
  forwardKeys :=
    "SELECT COLUMN_NAME AS org_column, " ++
    "REFERENCED_TABLE_NAME AS ref_table, " ++
    "REFERENCED_COLUMN_NAME AS ref_column " ++
    "FROM information_schema.KEY_COLUMN_USAGE " ++
    "WHERE TABLE_SCHEMA = DATABASE() AND TABLE_NAME = ? AND REFERENCED_TABLE_NAME IS NOT NULL"
  backwardKeys :=
    "SELECT REFERENCED_COLUMN_NAME AS org_column, " ++
    "TABLE_NAME AS ref_table, " ++
    "COLUMN_NAME AS ref_column " ++
    "FROM information_schema.KEY_COLUMN_USAGE " ++
    "WHERE TABLE_SCHEMA = DATABASE() AND REFERENCED_TABLE_NAME = ?"
  tables :=
    "SELECT TABLE_NAME AS table_name " ++
    "FROM information_schema.TABLES " ++
    "WHERE TABLE_SCHEMA = DATABASE() AND TABLE_TYPE = 'BASE TABLE' " ++
    "ORDER BY TABLE_NAME"

def postgres : CatalogStatements where
  columns :=
    "SELECT c.column_name::text AS field, " ++
    "c.udt_name::text AS native_type, " ++
    "c.data_type::text AS column_type, " ++
    "CASE WHEN c.is_nullable = 'YES' THEN 1 ELSE 0 END AS is_nullable, " ++
    "COALESCE((SELECT CASE WHEN tc.constraint_type = 'PRIMARY KEY' THEN 'PRI' ELSE 'UNI' END " ++
    "FROM information_schema.key_column_usage k " ++
    "JOIN information_schema.table_constraints tc " ++
    "ON tc.constraint_name = k.constraint_name AND tc.table_schema = k.table_schema AND tc.table_name = k.table_name " ++
    "WHERE k.table_schema = c.table_schema AND k.table_name = c.table_name AND k.column_name = c.column_name " ++
    "AND tc.constraint_type IN ('PRIMARY KEY', 'UNIQUE') " ++
    "ORDER BY tc.constraint_type LIMIT 1), '') AS key_type, " ++
    "c.column_default::text AS default_value, " ++
    "CASE WHEN c.column_default LIKE 'nextval(%' OR c.is_identity = 'YES' THEN 'auto_increment' ELSE '' END AS extra, " ++
    "c.character_maximum_length::int AS char_length, " ++
    "(SELECT string_agg(quote_literal(e.enumlabel), ',' ORDER BY e.enumsortorder) " ++
    "FROM pg_type t JOIN pg_enum e ON e.enumtypid = t.oid " ++
    "WHERE t.typname = c.udt_name) AS enum_values " ++
    "FROM information_schema.columns c " ++
    "WHERE c.table_schema = current_schema() AND c.table_name = $1::text " ++
    "ORDER BY c.ordinal_position"
  forwardKeys :=
    "SELECT kcu.column_name::text AS org_column, " ++
    "ccu.table_name::text AS ref_table, " ++
    "ccu.column_name::text AS ref_column " ++
    "FROM information_schema.table_constraints tc " ++
    "JOIN information_schema.key_column_usage kcu " ++
    "ON tc.constraint_name = kcu.constraint_name AND tc.table_schema = kcu.table_schema " ++
    "JOIN information_schema.constraint_column_usage ccu " ++
    "ON ccu.constraint_name = tc.constraint_name AND ccu.table_schema = tc.table_schema " ++
    "WHERE tc.constraint_type = 'FOREIGN KEY' AND tc.table_schema = current_schema() AND tc.table_name = $1::text"
  backwardKeys :=
    "SELECT ccu.column_name::text AS org_column, " ++
    "tc.table_name::text AS ref_table, " ++
    "kcu.column_name::text AS ref_column " ++
    "FROM information_schema.table_constraints tc " ++
    "JOIN information_schema.key_column_usage kcu " ++
    "ON tc.constraint_name = kcu.constraint_name AND tc.table_schema = kcu.table_schema " ++
    "JOIN information_schema.constraint_column_usage ccu " ++
    "ON ccu.constraint_name = tc.constraint_name AND ccu.table_schema = tc.table_schema " ++
    "WHERE tc.constraint_type = 'FOREIGN KEY' AND tc.table_schema = current_schema() AND ccu.table_name = $1::text"
  tables :=
    "SELECT table_name::text AS table_name " ++
    "FROM information_schema.tables " ++
    "WHERE table_schema = current_schema() AND table_type = 'BASE TABLE' " ++
    "ORDER BY table_name"

def mssql : CatalogStatements where
  columns :=
    "SELECT c.COLUMN_NAME AS field, " ++
    "c.DATA_TYPE AS native_type, " ++
    "c.DATA_TYPE AS column_type, " ++
    "CASE WHEN c.IS_NULLABLE = 'YES' THEN 1 ELSE 0 END AS is_nullable, " ++
    "COALESCE((SELECT TOP 1 CASE WHEN tc.CONSTRAINT_TYPE = 'PRIMARY KEY' THEN 'PRI' ELSE 'UNI' END " ++
    "FROM INFORMATION_SCHEMA.KEY_COLUMN_USAGE k " ++
    "JOIN INFORMATION_SCHEMA.TABLE_CONSTRAINTS tc " ++
    "ON tc.CONSTRAINT_NAME = k.CONSTRAINT_NAME AND tc.TABLE_SCHEMA = k.TABLE_SCHEMA " ++
    "WHERE k.TABLE_SCHEMA = c.TABLE_SCHEMA AND k.TABLE_NAME = c.TABLE_NAME AND k.COLUMN_NAME = c.COLUMN_NAME " ++
    "AND tc.CONSTRAINT_TYPE IN ('PRIMARY KEY', 'UNIQUE') " ++
    "ORDER BY tc.CONSTRAINT_TYPE), '') AS key_type, " ++
    "c.COLUMN_DEFAULT AS default_value, " ++
    "CASE WHEN COLUMNPROPERTY(OBJECT_ID(QUOTENAME(c.TABLE_SCHEMA) + '.' + QUOTENAME(c.TABLE_NAME)), c.COLUMN_NAME, 'IsIdentity') = 1 " ++
    "THEN 'auto_increment' ELSE '' END AS extra, " ++
    "c.CHARACTER_MAXIMUM_LENGTH AS char_length, " ++
    "(SELECT TOP 1 cc.CHECK_CLAUSE " ++
    "FROM INFORMATION_SCHEMA.CONSTRAINT_COLUMN_USAGE ccu " ++
    "JOIN INFORMATION_SCHEMA.CHECK_CONSTRAINTS cc " ++
    "ON cc.CONSTRAINT_NAME = ccu.CONSTRAINT_NAME AND cc.CONSTRAINT_SCHEMA = ccu.CONSTRAINT_SCHEMA " ++
    "WHERE ccu.TABLE_SCHEMA = c.TABLE_SCHEMA AND ccu.TABLE_NAME = c.TABLE_NAME AND ccu.COLUMN_NAME = c.COLUMN_NAME) AS enum_values " ++
    "FROM INFORMATION_SCHEMA.COLUMNS c " ++
    "WHERE c.TABLE_SCHEMA = SCHEMA_NAME() AND c.TABLE_NAME = @P1 " ++
    "ORDER BY c.ORDINAL_POSITION"
  forwardKeys :=
    "SELECT pc.name AS org_column, rt.name AS ref_table, rc.name AS ref_column " ++
    "FROM sys.foreign_key_columns fkc " ++
    "JOIN sys.tables pt ON pt.object_id = fkc.parent_object_id " ++
    "JOIN sys.columns pc ON pc.object_id = fkc.parent_object_id AND pc.column_id = fkc.parent_column_id " ++
    "JOIN sys.tables rt ON rt.object_id = fkc.referenced_object_id " ++
    "JOIN sys.columns rc ON rc.object_id = fkc.referenced_object_id AND rc.column_id = fkc.referenced_column_id " ++
    "WHERE pt.name = @P1"
  backwardKeys :=
    "SELECT rc.name AS org_column, pt.name AS ref_table, pc.name AS ref_column " ++
    "FROM sys.foreign_key_columns fkc " ++
    "JOIN sys.tables pt ON pt.object_id = fkc.parent_object_id " ++
    "JOIN sys.columns pc ON pc.object_id = fkc.parent_object_id AND pc.column_id = fkc.parent_column_id " ++
    "JOIN sys.tables rt ON rt.object_id = fkc.referenced_object_id " ++
    "JOIN sys.columns rc ON rc.object_id = fkc.referenced_object_id AND rc.column_id = fkc.referenced_column_id " ++
    "WHERE rt.name = @P1"
  tables :=
    "SELECT TABLE_NAME AS table_name " ++
    "FROM INFORMATION_SCHEMA.TABLES " ++
    "WHERE TABLE_TYPE = 'BASE TABLE' AND TABLE_SCHEMA = SCHEMA_NAME() " ++
    "ORDER BY TABLE_NAME"

def oracle : CatalogStatements where
  columns :=
    "SELECT c.COLUMN_NAME AS \"field\", " ++
    "LOWER(c.DATA_TYPE) AS \"native_type\", " ++
    "CASE WHEN c.DATA_TYPE = 'NUMBER' AND c.DATA_PRECISION IS NOT NULL " ++
    "THEN 'number(' || c.DATA_PRECISION || ')' ELSE LOWER(c.DATA_TYPE) END AS \"column_type\", " ++
    "CASE WHEN c.NULLABLE = 'Y' THEN 1 ELSE 0 END AS \"is_nullable\", " ++
    "(SELECT MIN(CASE k.CONSTRAINT_TYPE WHEN 'P' THEN 'PRI' ELSE 'UNI' END) " ++
    "FROM USER_CONSTRAINTS k JOIN USER_CONS_COLUMNS kc ON kc.CONSTRAINT_NAME = k.CONSTRAINT_NAME " ++
    "WHERE k.TABLE_NAME = c.TABLE_NAME AND kc.COLUMN_NAME = c.COLUMN_NAME AND k.CONSTRAINT_TYPE IN ('P', 'U')) AS \"key_type\", " ++
    "c.DATA_DEFAULT AS \"default_value\", " ++
    "CASE WHEN c.IDENTITY_COLUMN = 'YES' OR EXISTS (SELECT 1 FROM USER_SEQUENCES s " ++
    "WHERE s.SEQUENCE_NAME = c.TABLE_NAME || '_' || c.COLUMN_NAME || '_seq') " ++
    "THEN 'auto_increment' END AS \"extra\", " ++
    "c.CHAR_LENGTH AS \"char_length\", " ++
    "(SELECT MAX(ch.SEARCH_CONDITION_VC) FROM USER_CONSTRAINTS ch " ++
    "JOIN USER_CONS_COLUMNS chc ON chc.CONSTRAINT_NAME = ch.CONSTRAINT_NAME " ++
    "WHERE ch.TABLE_NAME = c.TABLE_NAME AND chc.COLUMN_NAME = c.COLUMN_NAME AND ch.CONSTRAINT_TYPE = 'C' " ++
    "AND ch.SEARCH_CONDITION_VC LIKE '%IN (%') AS \"enum_values\" " ++
    "FROM USER_TAB_COLUMNS c " ++
    "WHERE c.TABLE_NAME = :1 " ++
    "ORDER BY c.COLUMN_ID"
  forwardKeys :=
    "SELECT a.COLUMN_NAME AS \"org_column\", r.TABLE_NAME AS \"ref_table\", rc.COLUMN_NAME AS \"ref_column\" " ++
    "FROM USER_CONSTRAINTS c " ++
    "JOIN USER_CONS_COLUMNS a ON a.CONSTRAINT_NAME = c.CONSTRAINT_NAME " ++
    "JOIN USER_CONSTRAINTS r ON r.CONSTRAINT_NAME = c.R_CONSTRAINT_NAME " ++
    "JOIN USER_CONS_COLUMNS rc ON rc.CONSTRAINT_NAME = r.CONSTRAINT_NAME AND rc.POSITION = a.POSITION " ++
    "WHERE c.CONSTRAINT_TYPE = 'R' AND c.TABLE_NAME = :1"
  backwardKeys :=
    "SELECT rc.COLUMN_NAME AS \"org_column\", c.TABLE_NAME AS \"ref_table\", a.COLUMN_NAME AS \"ref_column\" " ++
    "FROM USER_CONSTRAINTS c " ++
    "JOIN USER_CONS_COLUMNS a ON a.CONSTRAINT_NAME = c.CONSTRAINT_NAME " ++
    "JOIN USER_CONSTRAINTS r ON r.CONSTRAINT_NAME = c.R_CONSTRAINT_NAME " ++
    "JOIN USER_CONS_COLUMNS rc ON rc.CONSTRAINT_NAME = r.CONSTRAINT_NAME AND rc.POSITION = a.POSITION " ++
    "WHERE c.CONSTRAINT_TYPE = 'R' AND r.TABLE_NAME = :1"
  tables :=
    "SELECT TABLE_NAME AS \"table_name\" FROM USER_TABLES ORDER BY TABLE_NAME"

def sqlite : CatalogStatements where
  columns :=
    "SELECT p.name AS field, " ++
    "lower(p.type) AS native_type, " ++
    "lower(p.type) AS column_type, " ++
    "CASE WHEN p.\"notnull\" = 1 OR p.pk > 0 THEN 0 ELSE 1 END AS is_nullable, " ++
    "CASE WHEN p.pk > 0 THEN 'PRI' " ++
    "WHEN EXISTS (SELECT 1 FROM pragma_index_list(?1) il " ++
    "JOIN pragma_index_info(il.name) ii " ++
    "WHERE il.\"unique\" = 1 AND il.origin <> 'pk' AND ii.name = p.name " ++
    "AND (SELECT COUNT(*) FROM pragma_index_info(il.name)) = 1) THEN 'UNI' " ++
    "ELSE '' END AS key_type, " ++
    "p.dflt_value AS default_value, " ++
    "CASE WHEN p.pk > 0 AND lower(p.type) = 'integer' THEN 'auto_increment' ELSE '' END AS extra, " ++
    "NULL AS char_length, " ++
    "NULL AS enum_values " ++
    "FROM pragma_table_info(?1) p " ++
    "ORDER BY p.cid"
  forwardKeys :=
    "SELECT f.\"from\" AS org_column, f.\"table\" AS ref_table, f.\"to\" AS ref_column " ++
    "FROM pragma_foreign_key_list(?1) f"
  backwardKeys :=
    "SELECT f.\"to\" AS org_column, m.name AS ref_table, f.\"from\" AS ref_column " ++
    "FROM sqlite_master m JOIN pragma_foreign_key_list(m.name) f " ++
    "WHERE m.type = 'table' AND f.\"table\" = ?1"
  tables :=
    "SELECT name AS table_name FROM sqlite_master " ++
    "WHERE type = 'table' AND name NOT LIKE 'sqlite_%' " ++
    "ORDER BY name"

end CatalogStatements

end DataAccess
